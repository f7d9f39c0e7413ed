import Sms112.Model.Http
import Sms112.Model.Invite
import Sms112.Rfc2046.Multipart

/-!
# The parts of the body

A reader of the INVITE splits its body at the delimiter lines. The parts it
finds are those the program has put together as long as neither the text nor
the geodata contains a line of that form; nothing in the program sees to that.
-/

namespace Sms112

open Rfc2046

variable {conf : SConf}

/-! ## What the reader is to find -/

/-- The SDP part. -/
def sdpPart : Octets :=
  ascii "Content-Type: application/sdp\r\n\r\n" ++
    ascii "(v): 0\r\n(o): itscc 0 0 IN IP4 0.0.0.0\r\n(s): its\r\n" ++
    ascii "(c): IN IP4 0.0.0.0\r\n(t): 0 0\r\n" ++
    ascii "(m): audio 1234 RTP/AVP 8\r\n(a): inactive"

/-- The headers of the part with the geodata. -/
def xmlHeaders : Octets :=
  ascii "Content-Type: application/pidf+xml\r\n" ++
    ascii "Content-ID: target123@172.16.78.4\r\n\r\n"

/-- The XML declaration line. -/
def xmlDeclaration : Octets :=
  ascii "<?xml version = \"1.0\" encoding = \"UTF-8\"?>\r\n"

/-- The headers of the part with the text. -/
def textHeaders : Octets :=
  ascii "Content-Type: text/plain; charset=UTF-8\r\n" ++
    ascii "Content-Transfer-Encoding: 8bit\r\n" ++
    ascii "Content-Disposition: form-data; name=\"part\"\r\n\r\n"

/-- The body splits into the SDP part, a part with the geodata and a part with
the text, and ends there. -/
def RoundTrips (conf : SConf) (text geodata : Option Octets)
    (body : Octets) : Prop :=
  ∃ xmlPart textPart,
    split conf.boundary body = some ([sdpPart, xmlPart, textPart], []) ∧
      content xmlPart = some (xmlDeclaration ++ pjAnsiStr geodata) ∧
      content textPart = some (pjAnsiStr text)

/-- No line of a text is a delimiter. -/
def NoDelimiterLine (boundary text : Octets) : Prop :=
  ¬HasDelimiter boundary (crlf ++ text ++ crlf)

instance (boundary text : Octets) :
    Decidable (NoDelimiterLine boundary text) := by
  unfold NoDelimiterLine
  infer_instance

/-! ## The body as its parts -/

theorem pjAnsiStr_boundary
    (isBoundary : IsBoundary conf.boundary) :
    pjAnsiStr (some conf.boundary) = conf.boundary := by
  apply (cString_eq_self_iff conf.boundary).mpr
  intro member
  rcases isBoundary.2.1 0 member with isChar | isSpace
  · exact absurd isChar (by decide)
  · exact absurd isSpace (by decide)

/-- What is appended before the geodata, between the delimiters. -/
theorem pjAnsiStrs_sdpAppends :
    pjAnsiStrs sdpAppends = sdpPart ++ crlf := by
  decide +kernel

theorem pjAnsiStrs_xmlAppends :
    pjAnsiStrs xmlAppends = xmlHeaders ++ xmlDeclaration := by
  decide +kernel

theorem pjAnsiStrs_textAppends :
    pjAnsiStrs textAppends = textHeaders := by
  decide +kernel

/-- The body is assembled of three parts. -/
theorem sipMakeBody_chars
    (isBoundary : IsBoundary conf.boundary)
    (memory : Octets)
    (text geodata : Option Octets) :
    (sipMakeBody conf ⟨some memory, 0⟩ text geodata).chars =
      opening conf.boundary ++
        assemble conf.boundary
          [sdpPart, xmlHeaders ++ (xmlDeclaration ++ pjAnsiStr geodata),
            textHeaders ++ pjAnsiStr text] := by
  have appended := foldl_pjStrcat2 (bodyAppends conf text geodata) [] memory
  rw [List.nil_append, List.length_nil] at appended
  rw [sipMakeBody, appended]
  have dashes : pjAnsiStr (literal "--") = [45, 45] := by decide
  have line : pjAnsiStr (literal "\r\n") = crlf := by decide
  have opens : pjAnsiStr (literal "\r\n--") = crlf ++ [45, 45] := by decide
  have closes : pjAnsiStr (literal "--\r\n") = [45, 45] ++ crlf := by decide
  have sdp := pjAnsiStrs_sdpAppends
  have xml := pjAnsiStrs_xmlAppends
  have headers := pjAnsiStrs_textAppends
  unfold pjAnsiStrs at sdp xml headers
  simp only [PjStr.chars, PjStr.memory, Option.getD_some, List.nil_append,
    List.take_left, pjAnsiStrs, bodyAppends, List.flatMap_append,
    List.flatMap_cons, List.flatMap_nil, sdp, xml, headers, dashes, line,
    opens, closes, pjAnsiStr_boundary isBoundary, List.append_nil]
  simp [opening, assemble, delimiter, dashed]

/-! ## Which texts come back -/

theorem noDelimiterLine_iff
    (boundary : Octets)
    {headers : Octets}
    (noHyphen : ¬[13, 10, 45] <:+: headers ++ crlf)
    (text : Octets) :
    ¬HasDelimiter boundary (headers ++ crlf ++ text ++ crlf) ↔
      NoDelimiterLine boundary text := by
  have localised := hasDelimiter_append_iff boundary noHyphen (text ++ crlf)
  simp only [NoDelimiterLine, List.append_assoc] at localised ⊢
  rw [localised]

/-- The headers end with a line break that no hyphen can follow. -/
theorem sdpPart_clear (boundary : Octets) :
    ¬HasDelimiter boundary (sdpPart ++ crlf) := by
  have localised := hasDelimiter_append_iff boundary
    (show ¬[13, 10, 45] <:+: sdpPart ++ crlf by decide +kernel) []
  rw [List.append_nil, List.append_nil] at localised
  rw [localised]
  rintro ⟨kind, inside⟩
  have longer := length_delimiter_pos boundary kind
  have shorter := inside.length_le
  simp only [crlf, List.length_cons, List.length_nil] at shorter
  omega

theorem xmlPart_clear_iff (boundary geodata : Octets) :
    ¬HasDelimiter boundary
        (xmlHeaders ++ (xmlDeclaration ++ geodata) ++ crlf) ↔
      NoDelimiterLine boundary geodata := by
  have front : xmlHeaders ++ xmlDeclaration =
      (xmlHeaders ++ xmlDeclaration).dropLast.dropLast ++ crlf := by
    decide +kernel
  rw [← List.append_assoc, front]
  exact noDelimiterLine_iff boundary (by decide +kernel) geodata

theorem textPart_clear_iff (boundary text : Octets) :
    ¬HasDelimiter boundary (textHeaders ++ text ++ crlf) ↔
      NoDelimiterLine boundary text := by
  have front : textHeaders = textHeaders.dropLast.dropLast ++ crlf := by
    decide +kernel
  rw [front]
  exact noDelimiterLine_iff boundary (by decide +kernel) text

/-- The body that is built splits into its parts exactly when no line of the
text or of the geodata is a delimiter. -/
theorem sipMakeBody_roundTrips_iff
    (isBoundary : IsBoundary conf.boundary)
    (memory : Octets)
    (text geodata : Option Octets) :
    RoundTrips conf text geodata
        (sipMakeBody conf ⟨some memory, 0⟩ text geodata).chars ↔
      NoDelimiterLine conf.boundary (pjAnsiStr geodata) ∧
        NoDelimiterLine conf.boundary (pjAnsiStr text) := by
  have xmlContent : content xmlHeaders = some [] := by decide +kernel
  have textContent : content textHeaders = some [] := by decide +kernel
  rw [sipMakeBody_chars isBoundary]
  constructor
  · rintro ⟨xmlPart, textPart, isSplit, isXml, isText⟩
    obtain ⟨-, equal, clear⟩ := (split_eq_some_iff isBoundary).mp isSplit
    simp only [assemble, List.append_nil, List.append_assoc,
      List.append_cancel_left_eq] at equal
    obtain rfl := eq_of_content xmlContent equal isXml
    simp only [List.append_assoc, List.append_cancel_left_eq] at equal
    obtain rfl := eq_of_content textContent equal isText
    constructor
    · apply (xmlPart_clear_iff _ _).mp
      exact clear _ (by simp)
    · apply (textPart_clear_iff _ _).mp
      exact clear _ (by simp)
  · rintro ⟨geodataClear, textClear⟩
    refine ⟨xmlHeaders ++ (xmlDeclaration ++ pjAnsiStr geodata),
      textHeaders ++ pjAnsiStr text, ?_, ?_, ?_⟩
    · apply (split_eq_some_iff isBoundary).mpr
      refine ⟨List.cons_ne_nil _ _, by rw [List.append_nil], ?_⟩
      simp only [List.forall_mem_cons]
      exact ⟨sdpPart_clear _, (xmlPart_clear_iff _ _).mpr geodataClear,
        (textPart_clear_iff _ _).mpr textClear, List.forall_mem_nil _⟩
    · exact content_append xmlContent _
    · exact content_append textContent _

/-- A configuration with a boundary. -/
def boundaryConf : SConf := { boundary := ascii "112-part" }

theorem plainText_roundTrips :
    RoundTrips boundaryConf (literal "Help") (literal "<presence></presence>")
      (sipMakeBody boundaryConf ⟨some (List.replicate bodySize 0), 0⟩
        (literal "Help") (literal "<presence></presence>")).chars :=
  (sipMakeBody_roundTrips_iff (by decide +kernel) (List.replicate bodySize 0)
    _ _).mpr ⟨by decide +kernel, by decide +kernel⟩

/-- A text with a line that closes the body, as an SMS can bring it. -/
def closingText : Octets :=
  ascii "Help\r\n--112-part--\r\nme"

/-- The reader finds `Help`, and an epilogue. -/
theorem closingText_misread :
    IsBoundary boundaryConf.boundary ∧
      extractGeodata (ascii "<presence></presence>") =
        some (ascii "<presence></presence>") ∧
      ¬RoundTrips boundaryConf (some closingText)
        (literal "<presence></presence>")
        (sipMakeBody boundaryConf ⟨some (List.replicate bodySize 0), 0⟩
          (some closingText) (literal "<presence></presence>")).chars := by
  refine ⟨by decide +kernel, by decide +kernel, ?_⟩
  rintro ⟨xmlPart, textPart, isSplit, -, -⟩
  have epilogue : (split boundaryConf.boundary
      (sipMakeBody boundaryConf ⟨some (List.replicate bodySize 0), 0⟩
        (some closingText)
        (literal "<presence></presence>")).chars).map Prod.snd ≠
          some [] := by
    decide +kernel
  apply epilogue
  rw [isSplit, Option.map_some]

end Sms112
