import DriverIndex.Proofs.Scan.FirstFailure
import DriverIndex.Proofs.Text.Encoding
import DriverIndex.Proofs.Text.Search

/-!
# Texts without a marker

A line is looked at only if it contains the marker. A text of which no line does so registers nothing and has no malformed line, whatever else it says, and that can be seen before it is encoded.
-/

namespace DriverIndex

/-- No line of a text contains a word. -/
def Text.Avoids (word : String) (text : List Char) : Prop := ∀ line ∈ Text.lines text, ¬word.toList <:+: line

/-- A text avoids a word if it lacks one of its characters. -/
theorem Text.avoids_of_notMem {word : String} {text : List Char} {c : Char} (hword : c ∈ word.toList) (htext : c ∉ text) :
    Text.Avoids word text :=
  fun _ hline hoccurs => htext (mem_of_mem_lines hline (hoccurs.subset hword))

namespace Marker

variable {marker : Marker} {word : String} {bytes : List UInt8}

theorem word_of_ofText? (hmarker : ofText? word = some marker) : marker.word = word.toList := by
  rw [ofText?] at hmarker
  split_ifs at hmarker
  rw [← Option.some.inj hmarker]

/-- What does not contain the marker registers nothing. -/
theorem extract_of_avoids (hmarker : ofText? word = some marker)
    (havoids : Text.Avoids word (Text.Utf8.decodeLossy bytes)) : marker.extract bytes = .ok [] := by
  have hcandidates : marker.candidates (Text.Utf8.decodeLossy bytes) = [] := by
    rw [List.eq_nil_iff_forall_not_mem]
    rintro ⟨line, number⟩ hmem
    obtain ⟨⟨-, hline⟩, hoccurs⟩ := mem_candidates.1 hmem
    rw [occursIn, Text.isSome_after?_iff, word_of_ofText? hmarker] at hoccurs
    exact havoids line (List.mem_of_getElem? hline) hoccurs
  rw [extract_eq_mapM, hcandidates]
  rfl

theorem extract_encode_of_avoids (hmarker : ofText? word = some marker) {text : List Char}
    (havoids : Text.Avoids word text) : marker.extract (Text.Utf8.encode text) = .ok [] :=
  extract_of_avoids hmarker (by rwa [Text.Utf8.decodeLossy_encode])

end Marker

end DriverIndex
