import GatewayOperator.Management.HttpClient
import GatewayOperator.Proofs.Text.Cut

/-!
# What a failure reports of a body

The body of an answer that is no success can be a whole page, in any language. A failure reports the status and the
start of the body: all of it if it is short, and else as many whole characters as the limit holds.
-/

set_option autoImplicit false

namespace GatewayOperator.Management

open Backend
open Text (utf8)
open Text.Utf8 (readLossy)

/-- Whatever the body of an answer that is no success, its text can be cut, and the failure reports the status and
the text that is left: the whole text if it has at most 512 bytes, and else its longest prefix of whole characters
with at most 512 bytes, which has at least 509. -/
theorem failure_reports_excerpt {status : Http.Status} (h : status.isSuccess = false) (body : List UInt8) :
    ∃ message, Text.cut? messageLimit (readLossy body) = some message ∧
      statusFailure? status body = some (.status status message) ∧
      message.toList <+: (readLossy body).toList ∧
      ((utf8 (readLossy body)).length ≤ 512 → message = readLossy body) ∧
      (512 < (utf8 (readLossy body)).length →
        509 ≤ (utf8 message).length ∧ (utf8 message).length ≤ 512 ∧
          ∀ other : String, other.toList <+: (readLossy body).toList → (utf8 other).length ≤ 512 →
            other.toList <+: message.toList) := by
  obtain ⟨message, hmessage, hcut, hshort, hlong⟩ := Text.exists_cut? messageLimit (readLossy body)
  have hexcerpt : excerpt (readLossy body) = message := by
    rw [Text.cut?_eq_some] at hmessage
    exact Option.some.inj hmessage
  refine ⟨message, hmessage, ?_, hcut.isPrefix, hshort, fun hbody => ⟨?_, hcut.fits, hcut.longest⟩⟩
  · rw [statusFailure?, h, hexcerpt]
    rfl
  · have hleast : 512 ≤ (utf8 message).length + 3 := hlong hbody
    omega

/-- The letters before the character in which the limit falls. -/
def letters : List Char := List.replicate 509 'a'

/-- A text whose last character takes four bytes and ends one byte behind the limit. -/
def page : String := String.ofList (letters ++ ['😀'])

/-- The status of a gateway whose backend is in trouble. -/
def badGateway : Http.Status := { code := 502 }

/-- The letters take 509 bytes. -/
theorem length_letters : (letters.flatMap String.utf8EncodeChar).length = 509 := by
  rw [letters, List.length_flatMap, List.map_replicate, List.sum_replicate_nat]
  rfl

/-- The text is one byte longer than what is shown of it at most. -/
theorem length_page : (utf8 page).length = 513 := by
  rw [utf8, page, String.toList_ofList, List.flatMap_append, List.length_append, length_letters]
  rfl

/-- The page is reported without its last character, and so with the least number of bytes. -/
theorem page_cut_before_last :
    badGateway.isSuccess = false ∧
      statusFailure? badGateway (utf8 page) = some (.status badGateway (String.ofList letters)) := by
  have hfailed : badGateway.isSuccess = false := rfl
  obtain ⟨message, -, hreported, hprefix, -, hlong⟩ := failure_reports_excerpt hfailed (utf8 page)
  rw [Text.Utf8.readLossy_utf8] at hprefix hlong
  obtain ⟨-, hfits, hlongest⟩ := hlong (by rw [length_page]; decide)
  rw [page, String.toList_ofList] at hprefix hlongest
  have hletters : letters <+: message.toList := by
    have hfront := hlongest (String.ofList letters)
    rw [utf8, String.toList_ofList, length_letters] at hfront
    exact hfront (List.prefix_append _ _) (by decide)
  have hmessage : message.toList = letters := by
    rcases List.prefix_concat_iff.mp hprefix with hwhole | hfront
    · -- the whole page takes too many bytes
      rw [← String.toList_ofList (l := letters ++ ['😀']), ← page, String.toList_inj] at hwhole
      rw [hwhole, length_page] at hfits
      omega
    · exact (hletters.eq_of_length_le hfront.length_le).symm
  refine ⟨hfailed, ?_⟩
  rw [hreported, ← hmessage, String.ofList_toList]

end GatewayOperator.Management
