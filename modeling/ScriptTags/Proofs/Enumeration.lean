import Mathlib.Data.List.Forall2
import Mathlib.Data.List.Nodup

/-!
# Enumerations

What a walk lists is compared with the places that should be listed. A list enumerates a relation
between places and entries when its entries stand for the related places one to one: every related
place is met, none is met twice, and each entry is related to its own place.
-/

namespace ScriptTags

variable {α β γ : Type}

/-- The entries of a list stand for the related places, each for one of its own. -/
def Enumerates (R : α → β → Prop) (entries : List β) : Prop :=
  ∃ places : List α, places.Nodup ∧ (∀ a, a ∈ places ↔ ∃ b, R a b) ∧
    List.Forall₂ R places entries

namespace Enumerates

variable {R S : α → β → Prop} {bs cs : List β}

theorem nil (h : ∀ a b, ¬ R a b) : Enumerates R [] :=
  ⟨[], List.nodup_nil, fun a => by simpa using h a, .nil⟩

theorem singleton {a : α} {b : β} (h : R a b) (honly : ∀ a' b', R a' b' → a' = a) :
    Enumerates R [b] := by
  refine ⟨[a], List.nodup_singleton a, ?_, .cons h .nil⟩
  intro a'
  rw [List.mem_singleton]
  constructor
  · rintro rfl
    exact ⟨b, h⟩
  · rintro ⟨b', h'⟩
    exact honly a' b' h'

theorem congr (h : Enumerates R bs) (hiff : ∀ a b, R a b ↔ S a b) : Enumerates S bs := by
  obtain rfl : R = S := by
    funext a b
    exact propext (hiff a b)
  exact h

theorem exists_place (h : Enumerates R bs) {b : β} (hb : b ∈ bs) : ∃ a, R a b := by
  obtain ⟨places, -, -, hentries⟩ := h
  induction hentries with
  | nil => simp at hb
  | cons hab _ ih =>
    rcases List.mem_cons.mp hb with rfl | hb
    · exact ⟨_, hab⟩
    · exact ih hb

theorem append (h : Enumerates R bs) (h' : Enumerates S cs)
    (hdisjoint : ∀ a b c, R a b → ¬ S a c) :
    Enumerates (fun a b => R a b ∨ S a b) (bs ++ cs) := by
  obtain ⟨ps, hps, hmem, hbs⟩ := h
  obtain ⟨qs, hqs, hmem', hcs⟩ := h'
  refine ⟨ps ++ qs, hps.append hqs ?_, ?_, ?_⟩
  · rw [List.disjoint_left]
    intro a ha ha'
    obtain ⟨b, hb⟩ := (hmem a).mp ha
    obtain ⟨c, hc⟩ := (hmem' a).mp ha'
    exact hdisjoint a b c hb hc
  · intro a
    rw [List.mem_append, hmem, hmem', exists_or]
  · exact List.rel_append (hbs.imp fun _ _ => .inl) (hcs.imp fun _ _ => .inr)

/-- Places may be renamed as long as they stay apart. -/
theorem mapPlaces (h : Enumerates R bs) {f : α → γ} (hf : Function.Injective f) :
    Enumerates (fun c b => ∃ a, f a = c ∧ R a b) bs := by
  obtain ⟨ps, hps, hmem, hbs⟩ := h
  refine ⟨ps.map f, hps.map hf, ?_, ?_⟩
  · intro c
    simp only [List.mem_map, hmem]
    constructor
    · rintro ⟨a, ⟨b, hb⟩, rfl⟩
      exact ⟨b, a, rfl, hb⟩
    · rintro ⟨b, a, rfl, hb⟩
      exact ⟨a, ⟨b, hb⟩, rfl⟩
  · rw [List.forall₂_map_left_iff]
    exact hbs.imp fun a b hab => ⟨a, rfl, hab⟩

theorem mapEntries (h : Enumerates R bs) (f : β → γ) :
    Enumerates (fun a c => ∃ b, R a b ∧ c = f b) (bs.map f) := by
  obtain ⟨ps, hps, hmem, hbs⟩ := h
  refine ⟨ps, hps, ?_, ?_⟩
  · intro a
    rw [hmem]
    constructor
    · rintro ⟨b, hb⟩
      exact ⟨f b, b, hb, rfl⟩
    · rintro ⟨-, b, hb, -⟩
      exact ⟨b, hb⟩
  · rw [List.forall₂_map_right_iff]
    exact hbs.imp fun a b hab => ⟨b, hab, rfl⟩

/-- What a partial function finds in a list stands for the indices at which it finds something. -/
theorem filterMap (f : α → Option β) (as : List α) :
    Enumerates (fun (i : ℕ) b => as[i]?.bind f = some b) (as.filterMap f) := by
  induction as with
  | nil => exact nil (by simp)
  | cons a as ih =>
    have hrest := ih.mapPlaces (fun _ _ => Nat.succ.inj)
    cases hfa : f a with
    | none =>
      rw [List.filterMap_cons_none hfa]
      refine hrest.congr fun i b => ?_
      cases i with
      | zero => simp [hfa]
      | succ i => simp
    | some b =>
      rw [List.filterMap_cons_some hfa]
      have hfirst : Enumerates (fun i c => i = 0 ∧ c = b) [b] :=
        singleton ⟨rfl, rfl⟩ fun _ _ h => h.1
      have hapart : ∀ i c d, i = 0 ∧ c = b → ¬ ∃ j, Nat.succ j = i ∧ as[j]?.bind f = some d := by
        rintro i c d ⟨rfl, -⟩ ⟨j, hj, -⟩
        exact Nat.succ_ne_zero j hj
      refine (hfirst.append hrest hapart).congr fun i c => ?_
      cases i with
      | zero => simp [hfa, eq_comm]
      | succ i => simp

/-- Enumerations that share no place are joined into one. -/
theorem flatMap {f : γ → List β} {R : γ → α → β → Prop} {xs : List γ} (hxs : xs.Nodup)
    (h : ∀ x ∈ xs, Enumerates (R x) (f x))
    (hapart : ∀ x ∈ xs, ∀ y ∈ xs, ∀ a b c, R x a b → R y a c → x = y) :
    Enumerates (fun a b => ∃ x ∈ xs, R x a b) (xs.flatMap f) := by
  induction xs with
  | nil => exact nil (by simp)
  | cons x xs ih =>
    obtain ⟨hx, hxs⟩ := List.nodup_cons.mp hxs
    have hrest := ih hxs (fun y hy => h y (.tail x hy))
      fun y hy z hz => hapart y (.tail x hy) z (.tail x hz)
    refine ((h x List.mem_cons_self).append hrest ?_).congr ?_
    · rintro a b c hb ⟨y, hy, hc⟩
      exact hx (hapart x List.mem_cons_self y (.tail x hy) a b c hb hc ▸ hy)
    · intro a b
      simp

end Enumerates
end ScriptTags
