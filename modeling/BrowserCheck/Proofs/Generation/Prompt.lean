import BrowserCheck.Generation.Request
import BrowserCheck.Proofs.Json.Arrangement
import BrowserCheck.Proofs.Json.OneLine
import BrowserCheck.Proofs.Web.Requests

set_option autoImplicit false

namespace BrowserCheck

open Json

namespace Text

def lastLine (text : String) : String := String.ofList (text.toList.reverse.takeWhile (· != '\n')).reverse

lemma lastLine_append {line : String} (h : '\n' ∉ line.toList) (before : String) :
    lastLine (before ++ "\n" ++ line) = line := by
  have hall : ∀ c ∈ line.toList.reverse, (c != '\n') = true := by
    intro c hc
    rw [bne_iff_ne]
    rintro rfl
    exact h (List.mem_reverse.mp hc)
  have htext : (before ++ "\n" ++ line).toList.reverse = line.toList.reverse ++ '\n' :: before.toList.reverse := by
    simp [String.toList_append]
  rw [lastLine, htext, List.takeWhile_append_of_pos hall, List.takeWhile_cons_of_neg (by decide), List.append_nil,
    List.reverse_reverse, String.ofList_toList]

end Text

namespace Script

lemma read?_toValue (s : Script) : Value.read? s.toValue.toText = some s.toValue := by
  rw [Value.read?_toText s.toValue_fits]
  exact congrArg some (Value.sort_sort _)

lemma read_toValue_iff (s : Script) : read s.toValue.toText = .ok s ↔ s.Valid := by
  rw [read, s.read?_toValue]
  exact ⟨fun h => valid_of_describes (describes_of_check h), check_toValue_of_valid⟩

end Script

namespace GenerateRequest

open Text (lastLine)

def sentences : String :=
  "\n\nRevise this existing script according to the request above. Keep the steps that still apply."

lemma revision_eq : revision = sentences ++ "\n" := by decide

/-- The script is read back from the last line, whatever the address and the prompt are, and what stands before the
sentences that ask for a revision is what would have been said without it. -/
theorem previous_script_recovered (url prompt : String) (s : Script) :
    let told := userPrompt ⟨url, prompt, some s⟩
    Value.read? (lastLine told) = some s.toValue ∧ (Script.read (lastLine told) = .ok s ↔ s.Valid) ∧
      ∀ asked, told = asked ++ revision ++ lastLine told ↔ asked = userPrompt ⟨url, prompt, none⟩ := by
  intro told
  have htold : told = userPrompt ⟨url, prompt, none⟩ ++ revision ++ s.toValue.toText := rfl
  have hline : '\n' ∉ s.toValue.toText.toList := by
    rw [Value.toText, String.toList_ofList]
    exact Writer.newline_notMem_compact s.toValue
  have hlast : lastLine told = s.toValue.toText := by
    rw [htold, revision_eq, ← String.append_assoc]
    exact Text.lastLine_append hline _
  rw [hlast]
  refine ⟨s.read?_toValue, s.read_toValue_iff, fun asked => ?_⟩
  rw [htold]
  constructor
  · intro h
    exact (String.append_left_inj revision).mp ((String.append_left_inj _).mp h).symm
  · rintro rfl
    rfl

end GenerateRequest

end BrowserCheck
