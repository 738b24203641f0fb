import Mathlib.Data.List.Basic
import Mathlib.Order.Lattice.Nat

/-!
# Slots of a history

A history is a list of entries, the oldest first. A `Slot` is something that some entries fill and
others empty: the rating under a name, the list of a section. A filling is in force as long as no
later entry empties the slot (`Slot.inForce`). The slot holds the last filling in force
(`Slot.Holds`), and it arrived with the first one (`Slot.arrival`): to fill it again does not change
its place among the others (`Slot.InOrder`).

All three are told by the history alone. The lemmas say what one more entry does to them.
-/

namespace Bookfinder

/-- What fills something, and what empties it. -/
structure Slot (ε : Type) where
  Fills : ε → Prop
  Empties : ε → Prop

namespace Slot

variable {ε κ : Type}

/-- The places of the fillings that no later entry undid. -/
def inForce (s : Slot ε) (h : List ε) : Set ℕ :=
  {n | (∃ e, h[n]? = some e ∧ s.Fills e) ∧ ∀ m > n, ∀ e, h[m]? = some e → ¬s.Empties e}

/-- The last filling: no later entry fills the slot again or empties it. -/
def Holds (s : Slot ε) (h : List ε) (e : ε) : Prop :=
  ∃ earlier later, h = earlier ++ e :: later ∧ s.Fills e ∧
    ∀ d ∈ later, ¬s.Fills d ∧ ¬s.Empties d

/-- The place of the first filling in force. -/
noncomputable def arrival (s : Slot ε) (h : List ε) : ℕ := sInf (s.inForce h)

/-- The slots of some keys arrived in this order. -/
def InOrder (slot : κ → Slot ε) (h : List ε) (keys : List κ) : Prop :=
  keys.Pairwise fun j k => (slot j).arrival h < (slot k).arrival h

variable {s : Slot ε} {h : List ε} {e d : ε} {n : ℕ}

/-! ## The fillings in force -/

@[simp] theorem inForce_nil (s : Slot ε) : s.inForce [] = ∅ := by
  simp [inForce]

theorem lt_of_mem_inForce (hn : n ∈ s.inForce h) : n < h.length := by
  obtain ⟨⟨e, he, -⟩, -⟩ := hn
  exact (List.getElem?_eq_some_iff.1 he).1

theorem getElem?_concat_cases (h : List ε) (e : ε) (n : ℕ) :
    (n < h.length ∧ (h ++ [e])[n]? = h[n]?) ∨ (n = h.length ∧ (h ++ [e])[n]? = some e) ∨
      (h.length < n ∧ (h ++ [e])[n]? = none) := by
  rcases lt_trichotomy n h.length with hn | hn | hn
  · exact Or.inl ⟨hn, List.getElem?_append_left hn⟩
  · subst hn
    exact Or.inr (Or.inl ⟨rfl, by simp⟩)
  · exact Or.inr (Or.inr ⟨hn, List.getElem?_eq_none (by simp; omega)⟩)

/-- The fillings in force after one more entry: the old ones if it does not empty the slot, and the
entry itself if it fills the slot. -/
theorem mem_inForce_concat : n ∈ s.inForce (h ++ [e]) ↔
    (n ∈ s.inForce h ∧ ¬s.Empties e) ∨ n = h.length ∧ s.Fills e := by
  constructor
  · rintro ⟨⟨d, hd, hfills⟩, hlater⟩
    rcases getElem?_concat_cases h e n with ⟨hn, heq⟩ | ⟨rfl, heq⟩ | ⟨-, heq⟩
    · refine Or.inl ⟨⟨⟨d, heq ▸ hd, hfills⟩, fun m hm c hc => ?_⟩, ?_⟩
      · have hlt := (List.getElem?_eq_some_iff.1 hc).1
        exact hlater m hm c (by rw [List.getElem?_append_left hlt, hc])
      · exact hlater h.length hn e (by simp)
    · obtain rfl : e = d := Option.some.inj (heq.symm.trans hd)
      exact Or.inr ⟨rfl, hfills⟩
    · rw [heq] at hd
      cases hd
  · rintro (⟨hn, hempties⟩ | ⟨rfl, hfills⟩)
    · have hlt := lt_of_mem_inForce hn
      obtain ⟨⟨d, hd, hfills⟩, hlater⟩ := hn
      refine ⟨⟨d, by rw [List.getElem?_append_left hlt, hd], hfills⟩, fun m hm c hc => ?_⟩
      rcases getElem?_concat_cases h e m with ⟨-, heq⟩ | ⟨-, heq⟩ | ⟨-, heq⟩
      · exact hlater m hm c (heq ▸ hc)
      · obtain rfl : e = c := Option.some.inj (heq.symm.trans hc)
        exact hempties
      · rw [heq] at hc
        cases hc
    · refine ⟨⟨e, by simp, hfills⟩, fun m hm c hc => ?_⟩
      have hlt := (List.getElem?_eq_some_iff.1 hc).1
      simp only [List.length_append, List.length_singleton] at hlt
      omega

theorem inForce_concat_of_fills (hf : s.Fills e) (he : ¬s.Empties e) :
    s.inForce (h ++ [e]) = insert h.length (s.inForce h) := by
  ext n
  simp [mem_inForce_concat, hf, he, or_comm]

theorem inForce_concat_of_ignores (hf : ¬s.Fills e) (he : ¬s.Empties e) :
    s.inForce (h ++ [e]) = s.inForce h := by
  ext n
  simp [mem_inForce_concat, hf, he]

/-! ## What a slot holds -/

theorem concat_eq_append_cons {earlier later : List ε} (hl : h ++ [e] = earlier ++ d :: later) :
    (later = [] ∧ d = e ∧ earlier = h) ∨
      ∃ later', later = later' ++ [e] ∧ h = earlier ++ d :: later' := by
  rcases List.eq_nil_or_concat later with rfl | ⟨later', c, rfl⟩
  · obtain ⟨hinit, hlast⟩ := List.append_inj' hl rfl
    exact Or.inl ⟨rfl, (List.singleton_inj.1 hlast).symm, hinit.symm⟩
  · have hl' : h ++ [e] = (earlier ++ d :: later') ++ [c] := by simpa using hl
    obtain ⟨hinit, hlast⟩ := List.append_inj' hl' rfl
    obtain rfl := List.singleton_inj.1 hlast
    exact Or.inr ⟨later', by simp, hinit⟩

@[simp] theorem not_holds_nil (s : Slot ε) (e : ε) : ¬s.Holds [] e := by
  rintro ⟨earlier, later, h, -⟩
  simp at h

/-- After one more entry a slot holds this one if it fills the slot, and else what it held before,
unless the entry empties it. -/
theorem holds_concat : s.Holds (h ++ [e]) d ↔
    (d = e ∧ s.Fills e) ∨ s.Holds h d ∧ ¬s.Fills e ∧ ¬s.Empties e := by
  constructor
  · rintro ⟨earlier, later, hl, hfills, hlater⟩
    rcases concat_eq_append_cons hl with ⟨-, rfl, -⟩ | ⟨later', rfl, rfl⟩
    · exact Or.inl ⟨rfl, hfills⟩
    · exact Or.inr ⟨⟨earlier, later', rfl, hfills, fun c hc => hlater c (by simp [hc])⟩,
        hlater e (by simp)⟩
  · rintro (⟨rfl, hfills⟩ | ⟨⟨earlier, later, rfl, hfills, hlater⟩, he⟩)
    · exact ⟨h, [], rfl, hfills, by simp⟩
    · refine ⟨earlier, later ++ [e], by simp, hfills, fun c hc => ?_⟩
      rcases List.mem_append.1 hc with hc | hc
      · exact hlater c hc
      · rw [List.mem_singleton.1 hc]
        exact he

theorem fills_of_holds (hs : s.Holds h e) : s.Fills e := by
  obtain ⟨-, -, -, hfills, -⟩ := hs
  exact hfills

/-- A slot holds an entry exactly if a filling is in force. -/
theorem exists_holds_iff : (∃ e, s.Holds h e) ↔ (s.inForce h).Nonempty := by
  induction h using List.reverseRecOn with
  | nil => simp
  | append_singleton h e ih =>
    simp only [Set.Nonempty, mem_inForce_concat, holds_concat, exists_or, exists_and_right, ih]
    tauto

/-! ## When a slot arrived -/

theorem arrival_lt (hs : (s.inForce h).Nonempty) : s.arrival h < h.length :=
  lt_of_mem_inForce (Nat.sInf_mem hs)

theorem arrival_concat_of_ignores (hf : ¬s.Fills e) (he : ¬s.Empties e) :
    s.arrival (h ++ [e]) = s.arrival h := by
  rw [arrival, inForce_concat_of_ignores hf he, arrival]

/-- A slot that is filled again keeps its arrival. -/
theorem arrival_concat_of_fills (hf : s.Fills e) (he : ¬s.Empties e)
    (hs : (s.inForce h).Nonempty) : s.arrival (h ++ [e]) = s.arrival h := by
  have hleast : IsLeast (insert h.length (s.inForce h)) (s.arrival h) := by
    refine ⟨Set.mem_insert_of_mem _ (Nat.sInf_mem hs), fun m hm => ?_⟩
    rcases Set.mem_insert_iff.1 hm with rfl | hm
    · exact (arrival_lt hs).le
    · exact Nat.sInf_le hm
  rw [arrival, inForce_concat_of_fills hf he, hleast.csInf_eq]

/-- A slot that was empty arrives with the entry that fills it. -/
theorem arrival_concat_of_new (hf : s.Fills e) (he : ¬s.Empties e)
    (hs : ¬(s.inForce h).Nonempty) : s.arrival (h ++ [e]) = h.length := by
  rw [arrival, inForce_concat_of_fills hf he, Set.not_nonempty_iff_eq_empty.1 hs,
    insert_empty_eq, csInf_singleton]

/-! ## The order of arrival -/

section Order

variable {slot : κ → Slot ε} {keys : List κ} {k : κ}

@[simp] theorem inOrder_nil (slot : κ → Slot ε) (h : List ε) : InOrder slot h [] :=
  List.Pairwise.nil

/-- Keys in order of arrival are different. -/
theorem InOrder.nodup (ho : InOrder slot h keys) : keys.Nodup :=
  ho.imp fun hlt heq => (heq ▸ hlt).false

/-- An entry that lets some of the keys be leaves these in order. -/
theorem InOrder.of_ignores {kept : List κ} (ho : InOrder slot h keys) (hsub : kept.Sublist keys)
    (hignores : ∀ j ∈ kept, ¬(slot j).Fills e ∧ ¬(slot j).Empties e) :
    InOrder slot (h ++ [e]) kept := by
  refine (ho.sublist hsub).imp_of_mem fun {i j} hi hj hlt => ?_
  rw [arrival_concat_of_ignores (hignores i hi).1 (hignores i hi).2,
    arrival_concat_of_ignores (hignores j hj).1 (hignores j hj).2]
  exact hlt

/-- An entry that fills one slot keeps the order, with the key at the end if it is new. -/
theorem InOrder.of_fills [Decidable (k ∈ keys)] (ho : InOrder slot h keys)
    (hkeys : ∀ j, j ∈ keys ↔ ((slot j).inForce h).Nonempty) (hfills : (slot k).Fills e)
    (hempties : ¬(slot k).Empties e)
    (hignores : ∀ j, j ≠ k → ¬(slot j).Fills e ∧ ¬(slot j).Empties e) :
    InOrder slot (h ++ [e]) (if k ∈ keys then keys else keys ++ [k]) := by
  have hold : ∀ j ∈ keys, (slot j).arrival (h ++ [e]) = (slot j).arrival h := by
    intro j hj
    by_cases hjk : j = k
    · subst hjk
      exact arrival_concat_of_fills hfills hempties ((hkeys j).1 hj)
    · exact arrival_concat_of_ignores (hignores j hjk).1 (hignores j hjk).2
  have hrest : InOrder slot (h ++ [e]) keys :=
    List.Pairwise.imp_of_mem (fun hi hj hlt => by rwa [hold _ hi, hold _ hj]) ho
  split
  · exact hrest
  · next hk =>
    have hnew := arrival_concat_of_new hfills hempties (fun hs => hk ((hkeys k).2 hs))
    refine List.pairwise_append.2 ⟨hrest, List.pairwise_singleton _ _, fun j hj i hi => ?_⟩
    rw [List.mem_singleton.1 hi, hold j hj, hnew]
    exact arrival_lt ((hkeys j).1 hj)

end Order

end Slot

end Bookfinder
