import Mathlib.Data.List.Forall2
import Mathlib.Data.List.Nodup

/-!
# Entries under names

What is found under a name in a list of named entries, and what does not change
it: the order of the entries if no name comes twice, and entries of other names.
-/

namespace BiometricSession.Entries

variable {α β : Type} {entries others : List (String × α)} {name other : String} {data : α}

theorem mem_of_lookup (found : entries.lookup name = some data) : (name, data) ∈ entries := by
  obtain ⟨front, back, split, -⟩ := List.lookup_eq_some_iff.mp found
  simp [split]

theorem lookup_of_mem (distinct : (entries.map Prod.fst).Nodup)
    (isMember : (name, data) ∈ entries) : entries.lookup name = some data := by
  induction entries with
  | nil => exact nomatch isMember
  | cons entry entries ih =>
      obtain ⟨first, content⟩ := entry
      rw [List.map_cons, List.nodup_cons] at distinct
      rcases List.mem_cons.mp isMember with same | isLater
      · obtain ⟨rfl, rfl⟩ := Prod.mk.inj same
        exact List.lookup_cons_self
      · have other : (name == first) = false := by
          rw [beq_eq_false_iff_ne]
          rintro rfl
          exact distinct.1 (List.mem_map.mpr ⟨_, isLater, rfl⟩)
        simp [List.lookup_cons, other, ih distinct.2 isLater]

theorem lookup_eq_some_iff_mem (distinct : (entries.map Prod.fst).Nodup) :
    entries.lookup name = some data ↔ (name, data) ∈ entries :=
  ⟨mem_of_lookup, lookup_of_mem distinct⟩

theorem lookup_perm (permuted : entries.Perm others) (distinct : (entries.map Prod.fst).Nodup)
    (name : String) : entries.lookup name = others.lookup name := by
  have distinctOthers := (permuted.map Prod.fst).nodup_iff.mp distinct
  ext data
  rw [lookup_eq_some_iff_mem distinct, lookup_eq_some_iff_mem distinctOthers, permuted.mem_iff]

theorem lookup_append_cons_ne {front back : List (String × α)} (different : name ≠ other)
    (data : α) :
    (front ++ (other, data) :: back).lookup name = (front ++ back).lookup name := by
  have passed : (name == other) = false := beq_eq_false_iff_ne.mpr different
  simp [List.lookup_append, List.lookup_cons, passed]

theorem lookup_filter_ne (different : name ≠ other) :
    (entries.filter (·.1 != other)).lookup name = entries.lookup name := by
  induction entries with
  | nil => rfl
  | cons entry entries ih =>
      obtain ⟨first, data⟩ := entry
      by_cases dropped : first = other
      · subst dropped
        have passed : (name == first) = false := beq_eq_false_iff_ne.mpr different
        simp [List.lookup_cons, passed, ih]
      · simp [List.lookup_cons, dropped, ih]

theorem nodup_filter (distinct : (entries.map Prod.fst).Nodup) (other : String) :
    ((entries.filter (·.1 != other)).map Prod.fst).Nodup :=
  distinct.sublist (List.filter_sublist.map Prod.fst)

/-- In two lists with the same names, what is found under a name is related if
the entries are. -/
theorem exists_lookup_of_forall₂ {Related : α → β → Prop} {partners : List (String × β)}
    (each : List.Forall₂ (fun entry partner => entry.1 = partner.1 ∧ Related entry.2 partner.2)
      entries partners) (found : entries.lookup name = some data) :
    ∃ partner, partners.lookup name = some partner ∧ Related data partner := by
  induction each with
  | nil => cases found
  | @cons entry partner entries partners related _ ih =>
      obtain ⟨first, content⟩ := entry
      obtain ⟨_, partner⟩ := partner
      obtain ⟨rfl, related⟩ := related
      by_cases same : name = first
      · subst same
        rw [List.lookup_cons_self] at found ⊢
        obtain rfl := Option.some.inj found
        exact ⟨partner, rfl, related⟩
      · have passed : (name == first) = false := beq_eq_false_iff_ne.mpr same
        rw [List.lookup_cons, passed] at found ⊢
        exact ih found

end BiometricSession.Entries
