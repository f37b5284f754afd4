import DomQuery.Text.Blank
import Mathlib.Data.List.Induction

/-!
Trimmed texts, and texts joined by single spaces.

Trimming gives the one text without blanks at its ends that is left when blanks are taken from the
ends (`isTrimmed_trimChars`, `trimChars_between`). So trimmed texts can be joined and trimmed again
without a loss: what comes out is the texts that are not empty, with one space between two
(`spaced`, `trim_append_space`). A text so joined can be joined further (`spaced_cons_spaced`), and
is trimmed itself (`isTrimmed_spaced`). And what trimming leaves of a text stays at the front
whatever is written after it (`trim_append_eq`).
-/

namespace DomQuery.Text

/-! ### Trimmed texts -/

/-- Neither the first character nor the last one is a blank. -/
structure IsTrimmed (cs : List Char) : Prop where
  first : ∀ c ∈ cs.head?, isBlank c = false
  last : ∀ c ∈ cs.getLast?, isBlank c = false

theorem isTrimmed_nil : IsTrimmed [] where
  first := nofun
  last := nofun

theorem isTrimmed_empty : IsTrimmed "".toList := isTrimmed_nil

theorem dropWhile_of_head? {p : Char → Bool} {cs : List Char} (h : ∀ c ∈ cs.head?, p c = false) :
    cs.dropWhile p = cs := by
  cases cs with
  | nil => rfl
  | cons c cs => rw [List.dropWhile_cons_of_neg (by simp [h c rfl])]

/-- Trimming takes the blanks around a trimmed text and nothing of the text. -/
theorem trimChars_between {front cs back : List Char} (hfront : ∀ c ∈ front, isBlank c = true)
    (h : IsTrimmed cs) (hback : ∀ c ∈ back, isBlank c = true) :
    trimChars (front ++ cs ++ back) = cs := by
  rw [trimChars, List.append_assoc, List.dropWhile_append_of_pos hfront]
  cases cs with
  | nil =>
      have gone : (back ++ []).dropWhile isBlank = [] := List.dropWhile_append_of_pos hback
      rw [List.nil_append, ← List.append_nil back, gone]
      rfl
  | cons c cs =>
      have opens : ∀ d ∈ (c :: cs ++ back).head?, isBlank d = false := h.first
      have closes : ∀ d ∈ (c :: cs).reverse.head?, isBlank d = false := by
        rw [List.head?_reverse]
        exact h.last
      rw [dropWhile_of_head? opens, List.reverse_append,
        List.dropWhile_append_of_pos fun d hd => hback d (List.mem_reverse.1 hd),
        dropWhile_of_head? closes, List.reverse_reverse]

theorem trimChars_of_isTrimmed {cs : List Char} (h : IsTrimmed cs) : trimChars cs = cs := by
  have trimmed : trimChars ([] ++ cs ++ []) = cs := trimChars_between nofun h nofun
  rwa [List.nil_append, List.append_nil] at trimmed

/-- Without its first blanks a text begins with no blank. -/
theorem isBlank_head?_dropWhile (cs : List Char) :
    ∀ c ∈ (cs.dropWhile isBlank).head?, isBlank c = false := by
  intro c hc
  have opens := List.head?_dropWhile_not isBlank cs
  rw [Option.mem_def.1 hc] at opens
  simpa using opens

theorem isTrimmed_trimChars (cs : List Char) : IsTrimmed (trimChars cs) where
  first := by
    -- What is left of the text after its first blanks begins with what is left in the end.
    obtain ⟨back, cut⟩ : trimChars cs <+: cs.dropWhile isBlank := by
      rw [← List.reverse_suffix, trimChars, List.reverse_reverse]
      exact List.dropWhile_suffix isBlank
    intro c hc
    apply isBlank_head?_dropWhile cs
    rw [← cut, List.head?_append, Option.mem_def.1 hc]
    rfl
  last := by
    rw [trimChars, List.getLast?_reverse]
    exact isBlank_head?_dropWhile _

theorem IsTrimmed.append_of_last {cs ds : List Char} (h : IsTrimmed cs) (ne : cs ≠ [])
    (closes : ∀ c ∈ ds.getLast?, isBlank c = false) : IsTrimmed (cs ++ ds) where
  first := by
    obtain ⟨c, rest, rfl⟩ := List.exists_cons_of_ne_nil ne
    exact h.first
  last := by
    intro c hc
    rw [List.getLast?_append] at hc
    cases hd : ds.getLast? with
    | none => exact h.last c (by simpa [hd] using hc)
    | some d => exact closes c (by simpa [hd] using hc)

theorem isTrimmed_append {cs mid ds : List Char} (hcs : IsTrimmed cs) (hds : IsTrimmed ds)
    (cs_ne : cs ≠ []) (ds_ne : ds ≠ []) : IsTrimmed (cs ++ mid ++ ds) := by
  rw [List.append_assoc]
  apply hcs.append_of_last cs_ne
  rw [List.getLast?_append, List.getLast?_eq_some_getLast ds_ne, Option.some_or,
    ← List.getLast?_eq_some_getLast ds_ne]
  exact hds.last

/-- A text is cut before its last blanks. -/
theorem exists_append_blanks (cs : List Char) :
    ∃ kept back, cs = kept ++ back ∧ (∀ c ∈ kept.getLast?, isBlank c = false) ∧
      ∀ c ∈ back, isBlank c = true := by
  refine ⟨(cs.reverse.dropWhile isBlank).reverse, (cs.reverse.takeWhile isBlank).reverse,
    ?_, ?_, ?_⟩
  · rw [← List.reverse_append, List.takeWhile_append_dropWhile, List.reverse_reverse]
  · rw [List.getLast?_reverse]
    exact isBlank_head?_dropWhile _
  · intro c hc
    exact List.all_eq_true.1 List.all_takeWhile c (List.mem_reverse.1 hc)

/-- Whatever is written after a text, what trimming leaves of the text stays at the front. -/
theorem trimChars_prefix_append (cs ds : List Char) : trimChars cs <+: trimChars (cs ++ ds) := by
  obtain ⟨front, back, cut, blankFront, -⟩ := exists_append_trimChars cs
  by_cases ne : trimChars cs = []
  · rw [ne]
    exact List.nil_prefix
  · -- Behind the trimmed text only the last blanks go, and it has none itself.
    obtain ⟨kept, last, rest, closes, blankLast⟩ := exists_append_blanks (back ++ ds)
    have joined : IsTrimmed (trimChars cs ++ kept) :=
      (isTrimmed_trimChars cs).append_of_last ne closes
    have shown : cs ++ ds = front ++ (trimChars cs ++ kept) ++ last := by
      conv_lhs => rw [cut]
      rw [List.append_assoc, rest]
      simp only [List.append_assoc]
    rw [shown, trimChars_between blankFront joined blankLast]
    exact List.prefix_append _ _

theorem trim_append_eq (s t : String) : ∃ later, trim (s ++ t) = trim s ++ later := by
  obtain ⟨later, cut⟩ := trimChars_prefix_append s.toList t.toList
  refine ⟨String.ofList later, ?_⟩
  rw [← String.toList_inj, String.toList_append, toList_trim, toList_trim, String.toList_append,
    String.toList_ofList, cut]

theorem trim_trim (s : String) : trim (trim s) = trim s := by
  rw [← String.toList_inj, toList_trim, toList_trim, trimChars_of_isTrimmed (isTrimmed_trimChars _)]

/-! ### Joining with spaces -/

/-- The texts that are not empty, with one space between two. -/
def spaced (texts : List String) : String := " ".intercalate (texts.filter (· ≠ ""))

@[simp] theorem spaced_empty_cons (texts : List String) : spaced ("" :: texts) = spaced texts := rfl

@[simp] theorem spaced_singleton (text : String) : spaced [text] = text := by
  by_cases empty : text = ""
  · rw [empty]
    rfl
  · simp [spaced, empty]

theorem intercalate_ne_empty {separator : String} {texts : List String} (ne : texts ≠ [])
    (h : ∀ t ∈ texts, t ≠ "") : separator.intercalate texts ≠ "" := by
  cases texts with
  | nil => exact absurd rfl ne
  | cons t texts =>
      have first := h t List.mem_cons_self
      cases texts with
      | nil => simpa using first
      | cons u texts => simp [first]

/-- A joined text is joined further like the texts it is made of. -/
theorem spaced_cons_spaced (texts more : List String) :
    spaced (spaced texts :: more) = spaced (texts ++ more) := by
  rw [spaced, spaced, spaced, List.filter_append]
  by_cases none : texts.filter (· ≠ "") = []
  · rw [none]
    rfl
  · have written : " ".intercalate (texts.filter (· ≠ "")) ≠ "" := by
      apply intercalate_ne_empty none
      intro t ht
      simpa using (List.mem_filter.1 ht).2
    rw [List.filter_cons_of_pos (by simpa using written)]
    by_cases last : more.filter (· ≠ "") = []
    · rw [last, String.intercalate_singleton, List.append_nil]
    · rw [String.intercalate_cons_of_ne_nil last, String.intercalate_append_of_ne_nil none last]

/-- Two trimmed texts, joined with a space and trimmed again. -/
theorem trim_append_space {s t : String} (hs : IsTrimmed s.toList) (ht : IsTrimmed t.toList) :
    trim (s ++ " " ++ t) = spaced [s, t] := by
  have space : ∀ c ∈ [' '], isBlank c = true := List.forall_mem_singleton.2 rfl
  rw [← String.toList_inj, toList_trim, String.toList_append, String.toList_append]
  by_cases hs' : s = ""
  · have trimmed : trimChars ([' '] ++ t.toList ++ []) = t.toList :=
      trimChars_between space ht nofun
    by_cases ht' : t = ""
    · rw [hs', ht']
      rfl
    · simpa [hs', ht', spaced] using trimmed
  · by_cases ht' : t = ""
    · have trimmed : trimChars ([] ++ s.toList ++ [' ']) = s.toList :=
        trimChars_between nofun hs space
      simpa [hs', ht', spaced] using trimmed
    · have joined : IsTrimmed (s.toList ++ " ".toList ++ t.toList) :=
        isTrimmed_append hs ht (by simpa using hs') (by simpa using ht')
      have trimmed := trimChars_of_isTrimmed joined
      simpa [hs', ht', spaced] using trimmed

/-- Trimmed texts stay trimmed when they are joined. -/
theorem isTrimmed_spaced {texts : List String} (h : ∀ t ∈ texts, IsTrimmed t.toList) :
    IsTrimmed (spaced texts).toList := by
  induction texts using List.reverseRecOn with
  | nil => exact isTrimmed_nil
  | append_singleton texts t ih =>
      have front := ih fun u hu => h u (List.mem_append_left _ hu)
      have last := h t (List.mem_append_right _ (List.mem_singleton_self t))
      rw [← spaced_cons_spaced, ← trim_append_space front last, toList_trim]
      exact isTrimmed_trimChars _

end DomQuery.Text
