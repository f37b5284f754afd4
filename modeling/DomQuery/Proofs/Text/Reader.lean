/-!
Readers that go through a text character by character.

A reader is a state and the function that gives, at each character, the next state or nothing, where
the reader does not get on. It takes a joined text one part after the other (`scan_append`), and
characters that leave it as it is can be read together (`foldlM_of_forall`).
-/

namespace DomQuery.Text

variable {σ : Type} {next : σ → Char → Option σ}

/-- The state of a reader after the text, if it gets through. -/
def scan (next : σ → Char → Option σ) (start : σ) (text : String) : Option σ :=
  text.toList.foldlM next start

theorem scan_append (start : σ) (s t : String) :
    scan next start (s ++ t) = (scan next start s).bind (scan next · t) := by
  rw [scan, String.toList_append, List.foldlM_append]
  rfl

/-- Characters that leave a reader as it is do so together. -/
theorem foldlM_of_forall {state : σ} {cs : List Char} (h : ∀ c ∈ cs, next state c = some state) :
    cs.foldlM next state = some state := by
  induction cs with
  | nil => rfl
  | cons c cs ih =>
      rw [List.foldlM_cons, h c List.mem_cons_self]
      exact ih fun d hd => h d (List.mem_cons_of_mem c hd)

end DomQuery.Text
