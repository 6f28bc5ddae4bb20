import Mathlib.Data.List.Forall2
import MarkerLint.Fault

/-!
# Lists gone through element by element

Steps that may have no answer, taken along a list: they have answers exactly if each of them has
one, and the answers stand in the order of the elements.
-/

namespace MarkerLint

variable {ε α β γ : Type}

/-- The answers along a list are those to its elements, in order. -/
theorem mapM_eq_ok_iff {f : α → Except ε β} {as : List α} {bs : List β} :
    as.mapM f = .ok bs ↔ List.Forall₂ (fun a b => f a = .ok b) as bs := by
  induction as generalizing bs with
  | nil =>
      rw [List.mapM_nil, List.forall₂_nil_left_iff]
      exact ⟨fun h => by cases h; rfl, fun h => by rw [h]; rfl⟩
  | cons a rest ih =>
      rw [List.mapM_cons, bind_eq_ok_iff]
      constructor
      · rintro ⟨b, hb, h⟩
        obtain ⟨others, hothers, h⟩ := bind_eq_ok_iff.mp h
        cases h
        exact .cons hb (ih.mp hothers)
      · rintro (_ | ⟨hb, hothers⟩)
        exact ⟨_, hb, bind_eq_ok_iff.mpr ⟨_, ih.mpr hothers, rfl⟩⟩

/-- There are answers along a list if there is one to each element. -/
theorem exists_mapM_eq_ok {f : α → Except ε β} {as : List α} (h : ∀ a ∈ as, ∃ b, f a = .ok b) :
    ∃ bs, as.mapM f = .ok bs := by
  induction as with
  | nil => exact ⟨[], rfl⟩
  | cons a rest ih =>
      obtain ⟨b, hb⟩ := h a List.mem_cons_self
      obtain ⟨bs, hbs⟩ := ih fun x hx => h x (List.mem_cons_of_mem _ hx)
      refine ⟨b :: bs, ?_⟩
      rw [List.mapM_cons, hb, hbs]
      rfl

theorem exists_foldlM_eq_ok {f : β → α → Except ε β} {as : List α}
    (h : ∀ a ∈ as, ∀ b, ∃ b', f b a = .ok b') (start : β) : ∃ b, as.foldlM f start = .ok b := by
  induction as generalizing start with
  | nil => exact ⟨start, rfl⟩
  | cons a rest ih =>
      obtain ⟨b, hb⟩ := h a List.mem_cons_self start
      obtain ⟨b', hb'⟩ := ih (fun x hx => h x (List.mem_cons_of_mem _ hx)) b
      refine ⟨b', ?_⟩
      rw [List.foldlM_cons, hb, ok_bind, hb']

/-- A failure along a list is the failure of one of its elements. -/
theorem exists_of_mapM_eq_error {f : α → Except ε β} {as : List α} {e : ε}
    (h : as.mapM f = .error e) : ∃ a ∈ as, f a = .error e := by
  induction as with
  | nil => cases h
  | cons a rest ih =>
      rw [List.mapM_cons] at h
      cases ha : f a with
      | error e' =>
          rw [ha] at h
          cases h
          exact ⟨a, List.mem_cons_self, ha⟩
      | ok b =>
          cases hrest : rest.mapM f with
          | error e' =>
              rw [ha, hrest] at h
              cases h
              obtain ⟨x, hx, hfail⟩ := ih hrest
              exact ⟨x, List.mem_cons_of_mem _ hx, hfail⟩
          | ok bs =>
              rw [ha, hrest] at h
              cases h

theorem mapM_congr {f g : α → Except ε β} {as : List α} (h : ∀ a ∈ as, f a = g a) :
    as.mapM f = as.mapM g := by
  induction as with
  | nil => rfl
  | cons a rest ih =>
      rw [List.mapM_cons, List.mapM_cons, h a List.mem_cons_self,
        ih fun x hx => h x (List.mem_cons_of_mem _ hx)]

theorem foldlM_congr {f g : β → α → Except ε β} {as : List α} (h : ∀ a ∈ as, ∀ b, f b a = g b a)
    (start : β) : as.foldlM f start = as.foldlM g start := by
  induction as generalizing start with
  | nil => rfl
  | cons a rest ih =>
      have hrest := ih fun x hx => h x (List.mem_cons_of_mem _ hx)
      simp only [List.foldlM_cons, h a List.mem_cons_self, hrest]

/-- Steps that commute two by two have one outcome along a list in any order, a failure included. -/
theorem foldlM_eq_of_perm {f : β → α → Except ε β} {as bs : List α} (hperm : as.Perm bs)
    (h : ∀ b a a', (f b a >>= fun c => f c a') = (f b a' >>= fun c => f c a)) (start : β) :
    as.foldlM f start = bs.foldlM f start := by
  induction hperm generalizing start with
  | nil => rfl
  | cons a _ ih => simp only [List.foldlM_cons, ih]
  | swap a a' rest =>
      simp only [List.foldlM_cons, ← bind_assoc]
      rw [h]
  | trans _ _ ih ih' => rw [ih, ih']

theorem map_eq_map_of_forall₂ {R : α → β → Prop} {f : α → γ} {g : β → γ} {as : List α}
    {bs : List β} (h : List.Forall₂ R as bs) (hR : ∀ a b, R a b → f a = g b) :
    as.map f = bs.map g := by
  induction h with
  | nil => rfl
  | cons hab _ ih => rw [List.map_cons, List.map_cons, hR _ _ hab, ih]

theorem exists_of_mem_forall₂ {R : α → β → Prop} {as : List α} {bs : List β}
    (h : List.Forall₂ R as bs) {b : β} (hb : b ∈ bs) : ∃ a ∈ as, R a b := by
  induction h with
  | nil => cases hb
  | cons hab _ ih =>
      rcases List.mem_cons.mp hb with rfl | hb
      · exact ⟨_, List.mem_cons_self, hab⟩
      · obtain ⟨a, ha, hR⟩ := ih hb
        exact ⟨a, List.mem_cons_of_mem _ ha, hR⟩

/-- Lists that go together still do so in another way, if their elements do. -/
theorem forall₂_imp_of_mem {R S : α → β → Prop} {as : List α} {bs : List β}
    (h : List.Forall₂ R as bs) (himp : ∀ a ∈ as, ∀ b ∈ bs, R a b → S a b) :
    List.Forall₂ S as bs := by
  induction h with
  | nil => exact .nil
  | cons hab _ ih =>
      refine .cons (himp _ List.mem_cons_self _ List.mem_cons_self hab) (ih ?_)
      intro a ha b hb hR
      exact himp a (List.mem_cons_of_mem _ ha) b (List.mem_cons_of_mem _ hb) hR

/-- What each element of a list has can be listed. -/
theorem exists_forall₂_of_forall_mem {R : α → β → Prop} {as : List α}
    (h : ∀ a ∈ as, ∃ b, R a b) : ∃ bs, List.Forall₂ R as bs := by
  induction as with
  | nil => exact ⟨[], .nil⟩
  | cons a rest ih =>
      obtain ⟨b, hb⟩ := h a List.mem_cons_self
      obtain ⟨bs, hbs⟩ := ih fun x hx => h x (List.mem_cons_of_mem _ hx)
      exact ⟨b :: bs, .cons hb hbs⟩

/-- What holds between any two elements of a list is carried over to a list beside it. -/
theorem pairwise_of_forall₂ {R : α → β → Prop} {S : α → α → Prop} {T : β → β → Prop}
    {as : List α} {bs : List β} (h : List.Forall₂ R as bs) (hS : as.Pairwise S)
    (hT : ∀ a b a' b', R a b → R a' b' → S a a' → T b b') : bs.Pairwise T := by
  induction h with
  | nil => exact .nil
  | @cons a b as bs hab hrest ih =>
      obtain ⟨ha, hS⟩ := List.pairwise_cons.mp hS
      refine List.pairwise_cons.mpr ⟨fun b' hb' => ?_, ih hS⟩
      obtain ⟨a', ha', hab'⟩ := exists_of_mem_forall₂ hrest hb'
      exact hT a b a' b' hab hab' (ha a' ha')

end MarkerLint
