import Mathlib.Data.List.Infix
import Mathlib.Data.Set.Defs

set_option autoImplicit false

/-! Codes whose words do not begin one another. What is written with such a code, one
word after another, can be taken apart again in only one way. -/

namespace SmartMic.PrefixCode

variable {Field Letter : Type*}

def SelfDelimiting (encode : Field → List Letter) (domain : Set Field) : Prop :=
  ∀ first ∈ domain, ∀ second ∈ domain, encode first <+: encode second → first = second

section

variable {encode : Field → List Letter} {domain : Set Field}

/-- A word is read off the front of any text. -/
theorem SelfDelimiting.append_inj (delimits : SelfDelimiting encode domain)
    {first second : Field} (inside : first ∈ domain) (inside' : second ∈ domain)
    {rest rest' : List Letter} (same : encode first ++ rest = encode second ++ rest') :
    first = second ∧ rest = rest' := by
  have begins : encode first <+: encode second ++ rest' := same ▸ List.prefix_append _ _
  have begins' : encode second <+: encode second ++ rest' := List.prefix_append _ _
  have equal : first = second := by
    rcases Nat.le_total (encode first).length (encode second).length with short | short
    · exact delimits _ inside _ inside' (List.prefix_of_prefix_length_le begins begins' short)
    · exact (delimits _ inside' _ inside
        (List.prefix_of_prefix_length_le begins' begins short)).symm
  rw [equal] at same
  exact ⟨equal, List.append_cancel_left same⟩

/-- A text of words is a text of only one list of fields, of whatever length. -/
theorem SelfDelimiting.flatMap_inj (delimits : SelfDelimiting encode domain)
    (nonempty : ∀ field ∈ domain, encode field ≠ []) {fields fields' : List Field}
    (inside : ∀ field ∈ fields, field ∈ domain) (inside' : ∀ field ∈ fields', field ∈ domain)
    (same : fields.flatMap encode = fields'.flatMap encode) : fields = fields' := by
  induction fields generalizing fields' with
  | nil =>
      cases fields' with
      | nil => rfl
      | cons second rest' =>
          rw [List.flatMap_nil, List.flatMap_cons] at same
          have empty := (List.append_eq_nil_iff.mp same.symm).1
          exact absurd empty (nonempty second (inside' second List.mem_cons_self))
  | cons first rest ih =>
      cases fields' with
      | nil =>
          rw [List.flatMap_nil, List.flatMap_cons] at same
          have empty := (List.append_eq_nil_iff.mp same).1
          exact absurd empty (nonempty first (inside first List.mem_cons_self))
      | cons second rest' =>
          rw [List.flatMap_cons, List.flatMap_cons] at same
          obtain ⟨here, inRest⟩ := List.forall_mem_cons.mp inside
          obtain ⟨here', inRest'⟩ := List.forall_mem_cons.mp inside'
          obtain ⟨equal, later⟩ := delimits.append_inj here here' same
          rw [equal, ih inRest inRest' later]

end

end SmartMic.PrefixCode
