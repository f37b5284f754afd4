import DomQuery.Record.Tagged

/-!
The layouts of a tagged value.

A tagged value is written in one way and read from many. `Tagged.LaidOut` says which: an object in
which the two members stand in any place and among any others, or an array of the two.

* `Tagged.ofJson?_of_laidOut`: a tagged value is read from each of its layouts.
* `Tagged.laidOut_of_ofJson?`: it is read from nothing else, as long as no object repeats a member.

Some kinds of content have one written form, others are read from more than one
(`Tagged.Restates`). Of every kind, what is read restates what would be written, and what restates
it is read (`Content.restates_of_read?`, `Content.read?_of_restates`).
-/

namespace DomQuery.Record

/-- No object in the value repeats a member. -/
inductive Json.Unrepeated : Json → Prop where
  | null : Unrepeated .null
  | bool (value : Bool) : Unrepeated (.bool value)
  | natural (value : Nat) : Unrepeated (.natural value)
  | number (spelling : String) : Unrepeated (.number spelling)
  | text (value : String) : Unrepeated (.text value)
  | array {items : List Json} (each : ∀ item ∈ items, Unrepeated item) :
      Unrepeated (.array items)
  | object {members : List (String × Json)} (distinct : (members.map Prod.fst).Nodup)
      (each : ∀ member ∈ members, Unrepeated member.2) : Unrepeated (.object members)

/-! ### Values with one written form -/

namespace Json

variable {json : Json}

theorem eq_text_of_text? {value : String} (h : json.text? = some value) : json = .text value := by
  cases json with
  | text _ => cases h; rfl
  | _ => cases h

theorem eq_map_text_of_mapM_text? {items : List Json} {values : List String}
    (h : items.mapM text? = some values) : items = values.map text := by
  induction items generalizing values with
  | nil => cases h; rfl
  | cons item items ih =>
      simp only [List.mapM_cons, Option.bind_eq_bind, Option.bind_eq_some_iff] at h
      obtain ⟨value, read, rest, later, same⟩ := h
      cases same
      rw [eq_text_of_text? read, ih later, List.map_cons]

theorem eq_array_of_texts? {values : List String} (h : json.texts? = some values) :
    json = .array (values.map text) := by
  cases json with
  | array items => rw [eq_map_text_of_mapM_text? h]
  | _ => cases h

theorem eq_natural_of_position? {position : UInt32} (h : json.position? = some position) :
    json = .natural position.toNat := by
  cases json with
  | natural value =>
      obtain ⟨inRange, same⟩ := Option.ite_none_right_eq_some.1 h
      cases same
      rw [UInt32.toNat_ofNat_of_lt' inRange]
  | _ => cases h

end Json

/-! ### Members -/

/-- All that the members give under the name is this: one value, or nothing. -/
def Gives (members : List (String × Json)) (name : String) (json : Option Json) : Prop :=
  members.filter (·.1 == name) = (json.map fun value => (name, value)).toList

section Members

variable {members : List (String × Json)} {name : String} {json : Option Json}

theorem Gives.mem {value : Json} (h : Gives members name (some value)) :
    (name, value) ∈ members := by
  have kept : (name, value) ∈ members.filter (·.1 == name) := by
    rw [h]
    exact List.mem_cons_self
  exact (List.mem_filter.1 kept).1

/-- A lookup finds the first of the members with the name. -/
theorem lookup_eq_head?_filter (members : List (String × Json)) (name : String) :
    members.lookup name = (members.filter (·.1 == name)).head?.map Prod.snd := by
  induction members with
  | nil => rfl
  | cons member members ih =>
      obtain ⟨key, value⟩ := member
      by_cases same : key = name
      · subst same
        simp
      · have apart : (name == key) = false := by simpa using Ne.symm same
        rw [List.lookup_cons, apart, List.filter_cons_of_neg (by simpa using same)]
        exact ih

theorem Gives.lookup_eq (h : Gives members name json) : members.lookup name = json := by
  rw [lookup_eq_head?_filter, h]
  cases json <;> rfl

theorem gives_lookup (distinct : (members.map Prod.fst).Nodup) (name : String) :
    Gives members name (members.lookup name) := by
  rw [Gives, lookup_eq_head?_filter]
  have once : ((members.filter (·.1 == name)).map Prod.fst).Nodup :=
    distinct.sublist (List.filter_sublist.map _)
  have named : ∀ member ∈ members.filter (·.1 == name), member.1 = name := by simp
  generalize members.filter (·.1 == name) = kept at once named ⊢
  rcases kept with _ | ⟨⟨key, value⟩, _ | ⟨second, rest⟩⟩
  · rfl
  · cases named (key, value) List.mem_cons_self
    rfl
  · have same : key = second.1 :=
      (named (key, value) (by simp)).trans (named second (by simp)).symm
    simp [same] at once

/-- A text that is read from under a name is all that is given there. -/
theorem gives_text (distinct : (members.map Prod.fst).Nodup) {value : String}
    (h : ((Json.object members).member? name).bind Json.text? = some value) :
    Gives members name (some (.text value)) := by
  obtain ⟨member, found, read⟩ := Option.bind_eq_some_iff.1 h
  have given := gives_lookup distinct name
  rwa [show members.lookup name = some member from found, Json.eq_text_of_text? read] at given

end Members

/-! ### Names -/

/-- The value stands for the name: it is the text, or an object that holds null under the name and
nothing else. -/
inductive Spells (name : String) : Json → Prop where
  | text : Spells name (.text name)
  | member : Spells name (.object [(name, .null)])

theorem Json.name?_eq_some_iff {json : Json} {name : String} :
    json.name? = some name ↔ Spells name json := by
  constructor
  · intro h
    unfold name? at h
    split at h
    case h_1 => cases h; exact .text
    case h_2 => cases h; exact .member
    case h_3 => cases h
  · rintro (_ | _) <;> rfl

/-! ### Layouts -/

namespace Tagged

/-- The layouts of a tagged value: an object in which each of the two members stands once, in any
place and among any others, or an array of the two. -/
inductive LaidOut (keys : TagKeys) (t : Tagged) : Json → Prop where
  | object {members : List (String × Json)} {name : Json}
      (named : Gives members keys.name (some name)) (spelled : Spells t.name name)
      (given : Gives members keys.content t.content) : LaidOut keys t (.object members)
  | pair {content : Json} (given : t.content = some content) :
      LaidOut keys t (.array [.text t.name, content])

variable {keys : TagKeys} {t : Tagged} {json : Json}

theorem ofJson?_of_laidOut (h : LaidOut keys t json) : ofJson? keys json = some t := by
  cases h with
  | object named spelled given =>
      simp [ofJson?, Json.member?, named.lookup_eq, given.lookup_eq,
        Json.name?_eq_some_iff.2 spelled]
  | pair given => simp [ofJson?, Json.text?, ← given]

theorem laidOut_of_ofJson? (unrepeated : json.Unrepeated) (h : ofJson? keys json = some t) :
    LaidOut keys t json := by
  unfold ofJson? at h
  split at h
  case h_1 name content =>
    obtain ⟨text, spelled, rfl⟩ := Option.map_eq_some_iff.1 h
    rw [Json.eq_text_of_text? spelled]
    exact .pair rfl
  case h_2 => cases h
  case h_3 json _ _ =>
    obtain ⟨name, named, rfl⟩ := Option.map_eq_some_iff.1 h
    obtain ⟨member, found, spelled⟩ := Option.bind_eq_some_iff.1 named
    cases unrepeated with
    | object distinct _ =>
        have named := gives_lookup distinct keys.name
        rw [show List.lookup keys.name _ = some member from found] at named
        exact .object named (Json.name?_eq_some_iff.1 spelled) (gives_lookup distinct keys.content)
    | _ => cases found

/-- The content of an accepted value repeats nothing either. -/
theorem LaidOut.unrepeated_content (h : LaidOut keys t json) (unrepeated : json.Unrepeated)
    {content : Json} (given : t.content = some content) : content.Unrepeated := by
  cases h with
  | object _ _ under =>
      rw [given] at under
      cases unrepeated with
      | object _ each => exact each _ under.mem
  | pair paired =>
      cases paired.symm.trans given
      cases unrepeated with
      | array each => exact each _ (by simp)

/-! ### Contents -/

/-- The second content is read as the first: it is the same, or null for nothing, or an object that
has the same members among others. -/
inductive Restates : Option Json → Option Json → Prop where
  | same (content : Option Json) : Restates content content
  | null : Restates none (some .null)
  | members {written given : List (String × Json)}
      (each : ∀ member ∈ written, Gives given member.1 (some member.2)) :
      Restates (some (.object written)) (some (.object given))

end Tagged

namespace Content

open Tagged (Restates)

variable {α : Type} {content : Option Json}

/-- A content with one written form is given in that form. -/
theorem restates_of_bind {read : Json → Option α} {write : α → Json}
    (exact : ∀ {json a}, read json = some a → json = write a) {a : α}
    (h : content.bind read = some a) : Restates (some (write a)) content := by
  obtain ⟨json, rfl, found⟩ := Option.bind_eq_some_iff.1 h
  rw [exact found]
  exact .same _

/-- What is read restates what would be written. -/
theorem restates_of_read? (c : Content α)
    (unrepeated : ∀ json, content = some json → json.Unrepeated) {a : α}
    (h : c.read? content = some a) : Restates (c.write a) content := by
  cases c with
  | nothing =>
      cases content with
      | none => exact .same none
      | some json =>
          cases json with
          | null => exact .null
          | _ => cases h
  | text => exact restates_of_bind Json.eq_text_of_text? h
  | texts => exact restates_of_bind Json.eq_array_of_texts? h
  | position => exact restates_of_bind Json.eq_natural_of_position? h
  | pair first second apart =>
      obtain ⟨json, rfl, h⟩ := Option.bind_eq_some_iff.1 h
      obtain ⟨value, read, h⟩ := Option.bind_eq_some_iff.1 h
      obtain ⟨value', read', same⟩ := Option.bind_eq_some_iff.1 h
      cases same
      cases unrepeated json rfl with
      | object distinct _ =>
          have gives := gives_text distinct read
          have gives' := gives_text distinct read'
          exact .members (by simp [gives, gives'])
      | _ => cases read

/-- What restates the written content is read as the same. -/
theorem read?_of_restates (c : Content α) {a : α} (h : Restates (c.write a) content) :
    c.read? content = some a := by
  generalize written : c.write a = expected at h
  cases h with
  | same =>
      subst written
      exact c.read?_write a
  | null =>
      cases c with
      | nothing => rfl
      | _ => cases written
  | members each =>
      cases c with
      | pair first second apart =>
          cases written
          have gives := each (first, .text a.1) (by simp)
          have gives' := each (second, .text a.2) (by simp)
          simp [read?, Json.member?, Json.text?, gives.lookup_eq, gives'.lookup_eq]
      | _ => cases written

end Content
end DomQuery.Record
