import LinuxAgent.Lib.Text

/-!
# Lines of fields

A line of fields is a text `key=value,key=value` and so on. It is made of a list of
pairs, and the values of a key are read from the text. What is read are the values of
the list again, as long as no key has one of the two separators and no value has a
comma.
-/

namespace Fields

/-- The fields of a line. -/
abbrev Record := List (String × String)

/-- The text of a field. -/
def fieldText (field : String × String) : String := field.1 ++ "=" ++ field.2

/-- The text of a line. -/
def line (r : Record) : String := Text.joinWith ',' (r.map fieldText)

/-- The field that a text stands for. -/
def readField (s : String) : Option (String × String) :=
  (Text.splitOnce '=' s.toList).map fun parts => (String.ofList parts.1, String.ofList parts.2)

/-- The values of a key in a line. -/
def values (key line : String) : List String :=
  ((Text.split ',' line).filterMap readField).filterMap fun field =>
    if field.1 = key then some field.2 else none

/-- The values of a key in a list of fields. -/
def lookupAll (key : String) (r : Record) : List String :=
  r.filterMap fun field => if field.1 = key then some field.2 else none

/-- A key that can be told from its value, and a value that can be told from the next field. -/
structure Plain (field : String × String) : Prop where
  key : ∀ c ∈ field.1.toList, c ≠ ',' ∧ c ≠ '='
  value : ',' ∉ field.2.toList

variable {r : Record} {key : String}

/-- A field is read back. -/
theorem readField_fieldText {field : String × String} (h : Plain field) :
    readField (fieldText field) = some field := by
  have hkey : '=' ∉ field.1.toList := fun hmem => (h.key _ hmem).2 rfl
  have htext : (fieldText field).toList = field.1.toList ++ '=' :: field.2.toList := by
    simp [fieldText]
  rw [readField, htext, Text.splitOnce_append hkey, Option.map_some, String.ofList_toList,
    String.ofList_toList]

/-- The fields of a line are read back. -/
theorem filterMap_readField_line (h : ∀ field ∈ r, Plain field) :
    (Text.split ',' (line r)).filterMap readField = r := by
  cases hr : r with
  | nil => rfl
  | cons first rest =>
    rw [← hr, line, Text.split_joinWith]
    · have hread (r : Record) (h : ∀ field ∈ r, Plain field) :
          (r.map fieldText).filterMap readField = r := by
        induction r with
        | nil => rfl
        | cons field r ih =>
          rw [List.forall_mem_cons] at h
          rw [List.map_cons, List.filterMap_cons_some (readField_fieldText h.1), ih h.2]
      exact hread r h
    · refine List.forall_mem_map.mpr fun field hfield hmem => ?_
      simp only [fieldText, String.toList_append, List.mem_append] at hmem
      rcases hmem with (hkey | hsep) | hvalue
      · exact ((h field hfield).key _ hkey).1 rfl
      · exact absurd hsep (by decide)
      · exact (h field hfield).value hvalue
    · rw [hr]
      exact List.cons_ne_nil _ _

/-- The values of a key are read back. -/
theorem values_line (h : ∀ field ∈ r, Plain field) : values key (line r) = lookupAll key r := by
  rw [values, filterMap_readField_line h, lookupAll]

/-- There is nothing in an empty record. -/
theorem lookupAll_nil (key : String) : lookupAll key [] = [] := rfl

/-- The values of a key in two lists of fields. -/
theorem lookupAll_append (r' : Record) :
    lookupAll key (r ++ r') = lookupAll key r ++ lookupAll key r' :=
  List.filterMap_append

/-- A field with the key has the first of its values. -/
theorem lookupAll_cons_self (value : String) :
    lookupAll key ((key, value) :: r) = value :: lookupAll key r :=
  List.filterMap_cons_some (if_pos rfl)

/-- A field with another key has none of its values. -/
theorem lookupAll_cons_of_ne {key' : String} (h : key' ≠ key) (value : String) :
    lookupAll key ((key', value) :: r) = lookupAll key r :=
  List.filterMap_cons_none (if_neg h)

/-- The characters of a line. -/
theorem of_mem_line {c : Char} (h : c ∈ (line r).toList) :
    c = ',' ∨ c = '=' ∨ ∃ field ∈ r, c ∈ field.1.toList ∨ c ∈ field.2.toList := by
  rcases Text.of_mem_joinWith h with rfl | ⟨piece, hpiece, hc⟩
  · exact .inl rfl
  · obtain ⟨field, hfield, rfl⟩ := List.mem_map.mp hpiece
    simp only [fieldText, String.toList_append, List.mem_append] at hc
    rcases hc with (hkey | hsep) | hvalue
    · exact .inr (.inr ⟨field, hfield, .inl hkey⟩)
    · exact .inr (.inl (by simpa using hsep))
    · exact .inr (.inr ⟨field, hfield, .inr hvalue⟩)

/-- A text without line breaks and without the two separators. -/
def Inert (s : String) : Prop := ∀ c ∈ s.toList, c ≠ '\n' ∧ c ≠ ',' ∧ c ≠ '='

instance (s : String) : Decidable (Inert s) :=
  List.decidableBAll (fun c => c ≠ '\n' ∧ c ≠ ',' ∧ c ≠ '=') s.toList

/-- A text is inert just if its parts are. -/
@[simp] theorem inert_append {s t : String} : Inert (s ++ t) ↔ Inert s ∧ Inert t := by
  rw [Inert, String.toList_append]
  exact List.forall_mem_append

/-- Numbers are inert. -/
theorem inert_toString (n : ℕ) : Inert (toString n) := by
  intro c hc
  have hdigit := Text.isDigit_of_mem_toString hc
  refine ⟨?_, ?_, ?_⟩
  all_goals
    rintro rfl
    exact absurd hdigit (by decide)

/-- All keys and values are inert. -/
def Tidy (r : Record) : Prop := ∀ field ∈ r, Inert field.1 ∧ Inert field.2

/-- The empty record is tidy. -/
@[simp] theorem tidy_nil : Tidy [] := fun _ h => absurd h List.not_mem_nil

/-- A record is tidy just if its first field and the others are. -/
@[simp] theorem tidy_cons {key value : String} :
    Tidy ((key, value) :: r) ↔ (Inert key ∧ Inert value) ∧ Tidy r := List.forall_mem_cons

/-- A record is tidy just if its parts are. -/
@[simp] theorem tidy_append {r' : Record} : Tidy (r ++ r') ↔ Tidy r ∧ Tidy r' :=
  List.forall_mem_append

/-- The fields of a tidy record can be told apart. -/
theorem Tidy.plain (h : Tidy r) : ∀ field ∈ r, Plain field := by
  intro field hfield
  obtain ⟨hkey, hvalue⟩ := h field hfield
  exact ⟨fun c hc => (hkey c hc).2, fun hc => (hvalue _ hc).2.1 rfl⟩

/-- The text of a tidy record is one line. -/
theorem Tidy.unbroken (h : Tidy r) : '\n' ∉ (line r).toList := by
  intro hc
  rcases of_mem_line hc with hsep | hsep | ⟨field, hfield, hkey | hvalue⟩
  · exact absurd hsep (by decide)
  · exact absurd hsep (by decide)
  · exact ((h field hfield).1 _ hkey).1 rfl
  · exact ((h field hfield).2 _ hvalue).1 rfl

end Fields
