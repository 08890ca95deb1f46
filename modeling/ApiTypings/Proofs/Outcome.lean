import Mathlib.Data.List.Forall2

/-! # Computations that succeed or fail -/

namespace ApiTypings.Outcome

variable {ε α β γ : Type}

/-! ## Lists in step -/

theorem exists_mem_left {R : α → β → Prop} {as : List α} {bs : List β} {b : β}
    (h : List.Forall₂ R as bs) (hb : b ∈ bs) : ∃ a ∈ as, R a b := by
  induction h with
  | nil => cases hb
  | @cons a _ as _ hab _ ih =>
      rcases List.mem_cons.mp hb with rfl | hb
      · exact ⟨a, List.mem_cons_self, hab⟩
      · obtain ⟨a', ha', h⟩ := ih hb
        exact ⟨a', List.mem_cons_of_mem a ha', h⟩

theorem exists_mem_right {R : α → β → Prop} {as : List α} {bs : List β} {a : α}
    (h : List.Forall₂ R as bs) (ha : a ∈ as) : ∃ b ∈ bs, R a b :=
  exists_mem_left (List.Forall₂.flip (R := fun b a => R a b) h) ha

theorem map_eq_map_of_forall₂ {R : α → β → Prop} {f : α → γ} {g : β → γ} {as : List α}
    {bs : List β} (h : List.Forall₂ R as bs) (hfg : ∀ a b, R a b → f a = g b) :
    as.map f = bs.map g := by
  induction h with
  | nil => rfl
  | cons hab _ ih => rw [List.map_cons, List.map_cons, hfg _ _ hab, ih]

/-- Where each element is in step with one thing only, that is a function of it. -/
theorem exists_map_of_forall₂ [Nonempty β] {R : α → β → Prop} {as : List α} {bs : List β}
    (h : List.Forall₂ R as bs) (hR : ∀ a b b', R a b → R a b' → b = b') :
    ∃ g, (∀ a ∈ as, R a (g a)) ∧ bs = as.map g := by
  have hex : ∀ a ∈ as, ∃ b, R a b := fun a ha =>
    let ⟨b, _, hb⟩ := exists_mem_right h ha
    ⟨b, hb⟩
  choose! g hg using hex
  refine ⟨g, hg, ?_⟩
  induction h with
  | nil => rfl
  | cons hab _ ih =>
      rw [List.forall_mem_cons] at hg
      rw [List.map_cons, hR _ _ _ hab hg.1, ← ih hg.2]

/-- Two lists in step with a third one are in step with each other. -/
theorem forall₂_zip {R : α → β → Prop} {S : α → γ → Prop} {T : α → β × γ → Prop} {as : List α}
    {bs : List β} {cs : List γ} (h : List.Forall₂ R as bs) (h' : List.Forall₂ S as cs)
    (hT : ∀ a ∈ as, ∀ b c, R a b → S a c → T a (b, c)) : List.Forall₂ T as (bs.zip cs) := by
  induction h generalizing cs with
  | nil =>
      cases h'
      exact .nil
  | @cons a b as _ hab _ ih =>
      cases h' with
      | cons hac hcs =>
          rw [List.zip_cons_cons]
          exact .cons (hT a List.mem_cons_self _ _ hab hac)
            (ih hcs fun a' ha' => hT a' (List.mem_cons_of_mem a ha'))

/-! ## Options in step -/

theorem isSome_eq_of_rel {R : α → β → Prop} {x : Option α} {y : Option β}
    (h : Option.Rel R x y) : x.isSome = y.isSome := by
  cases h <;> rfl

theorem rel_refl {R : α → α → Prop} (hR : ∀ a, R a a) (x : Option α) : Option.Rel R x x := by
  cases x with
  | none => exact .none
  | some a => exact .some (hR a)

/-! ## When a computation succeeds -/

theorem bind_eq_ok {x : Except ε α} {f : α → Except ε β} {b : β} :
    x >>= f = .ok b ↔ ∃ a, x = .ok a ∧ f a = .ok b := by
  cases x <;> simp [bind, Except.bind]

theorem bind_eq_of_ok {x : Except ε α} {a : α} (h : x = .ok a) (f : α → Except ε β) :
    x >>= f = f a := by
  rw [h]
  rfl

theorem map_eq_ok {x : Except ε α} {f : α → β} {b : β} :
    f <$> x = .ok b ↔ ∃ a, x = .ok a ∧ f a = b := by
  cases x <;> simp [Functor.map, Except.map]

theorem mapM_eq_ok {f : α → Except ε β} {as : List α} {bs : List β} :
    as.mapM f = .ok bs ↔ List.Forall₂ (fun a b => f a = .ok b) as bs := by
  induction as generalizing bs with
  | nil => cases bs <;> simp [pure, Except.pure]
  | cons a as ih =>
      simp only [List.mapM_cons, bind_eq_ok, ih]
      constructor
      · rintro ⟨b, hb, rest, hrest, h⟩
        cases h
        exact .cons hb hrest
      · rintro (_ | ⟨hb, hrest⟩)
        exact ⟨_, hb, _, hrest, rfl⟩

/-- Every result is that of one of the elements. -/
theorem exists_of_mem_mapM {f : α → Except ε β} {as : List α} {bs : List β} {b : β}
    (h : as.mapM f = .ok bs) (hb : b ∈ bs) : ∃ a ∈ as, f a = .ok b :=
  exists_mem_left (R := fun a b => f a = .ok b) (mapM_eq_ok.mp h) hb

/-- The results stand at the places of the elements. -/
theorem exists_getElem?_of_mapM {f : α → Except ε β} {as : List α} {bs : List β} {i : Nat} {a : α}
    (h : as.mapM f = .ok bs) (ha : as[i]? = some a) : ∃ b, bs[i]? = some b ∧ f a = .ok b := by
  have hall := mapM_eq_ok.mp h
  clear h
  induction hall generalizing i with
  | nil => simp at ha
  | @cons a' b' as bs hab _ ih =>
      cases i with
      | zero =>
          cases ha
          exact ⟨b', rfl, hab⟩
      | succ i => exact ih ha

/-- Every element has its result among the results. -/
theorem exists_mem_of_mapM {f : α → Except ε β} {as : List α} {bs : List β} {a : α}
    (h : as.mapM f = .ok bs) (ha : a ∈ as) : ∃ b ∈ bs, f a = .ok b :=
  exists_mem_right (R := fun a b => f a = .ok b) (mapM_eq_ok.mp h) ha

/-- Where the results are those of a function, so is the list of them. -/
theorem mapM_eq_map {f : α → Except ε β} {g : α → β} {as : List α}
    (h : ∀ a ∈ as, f a = .ok (g a)) : as.mapM f = .ok (as.map g) := by
  rw [mapM_eq_ok, List.forall₂_map_right_iff, List.forall₂_same]
  exact h

theorem exists_map_of_mapM [Nonempty β] {f : α → Except ε β} {as : List α} {bs : List β}
    (h : as.mapM f = .ok bs) : ∃ g, (∀ a ∈ as, f a = .ok (g a)) ∧ bs = as.map g :=
  exists_map_of_forall₂ (mapM_eq_ok.mp h) fun _ _ _ hb hb' => Except.ok.inj (hb.symm.trans hb')

/-- In another order there are the same results in that order. -/
theorem mapM_perm [Nonempty β] {f : α → Except ε β} {as as' : List α} {bs : List β}
    (h : as.mapM f = .ok bs) (hperm : as.Perm as') :
    ∃ bs', as'.mapM f = .ok bs' ∧ bs.Perm bs' := by
  obtain ⟨g, hg, rfl⟩ := exists_map_of_mapM h
  exact ⟨as'.map g, mapM_eq_map fun a ha => hg a (hperm.mem_iff.mpr ha), hperm.map g⟩

/-- Keeping results is computing all of them and then leaving out the empty ones. -/
theorem filterMapM_eq_map (f : α → Except ε (Option β)) (as : List α) :
    as.filterMapM f = (List.filterMap id) <$> as.mapM f := by
  induction as with
  | nil => rfl
  | cons a as ih =>
      rw [List.filterMapM_cons, List.mapM_cons, ih]
      cases f a with
      | error e => rfl
      | ok kept => cases kept <;> cases as.mapM f <;> rfl

/-- Every result that is kept is that of one of the elements. -/
theorem exists_of_mem_filterMapM {f : α → Except ε (Option β)} {as : List α} {bs : List β} {b : β}
    (h : as.filterMapM f = .ok bs) (hb : b ∈ bs) : ∃ a ∈ as, f a = .ok (some b) := by
  rw [filterMapM_eq_map] at h
  obtain ⟨results, hresults, rfl⟩ := map_eq_ok.mp h
  obtain ⟨kept, hkept, rfl⟩ := List.mem_filterMap.mp hb
  exact exists_of_mem_mapM hresults hkept

/-- What stands before a result that is kept comes from what stands before its element. -/
theorem exists_of_filterMapM_eq_append_cons {f : α → Except ε (Option β)} {as : List α}
    {before after : List β} {b : β} (h : as.filterMapM f = .ok (before ++ b :: after)) :
    ∃ as₁ a as₂, as = as₁ ++ a :: as₂ ∧ as₁.filterMapM f = .ok before ∧ f a = .ok (some b) := by
  induction as generalizing before with
  | nil =>
      have hnil : before ++ b :: after = [] := (Except.ok.inj h).symm
      simp at hnil
  | cons a as ih =>
      rw [List.filterMapM_cons] at h
      obtain ⟨kept, hkept, h⟩ := bind_eq_ok.mp h
      cases kept with
      | none =>
          obtain ⟨as₁, a', as₂, rfl, hbefore, hb⟩ := ih h
          exact ⟨a :: as₁, a', as₂, rfl, by rw [List.filterMapM_cons, hkept]; exact hbefore, hb⟩
      | some c =>
          obtain ⟨rest, hrest, h⟩ := bind_eq_ok.mp h
          cases before with
          | nil =>
              cases h
              exact ⟨[], a, as, rfl, rfl, hkept⟩
          | cons d before =>
              cases h
              obtain ⟨as₁, a', as₂, rfl, hbefore, hb⟩ := ih hrest
              refine ⟨a :: as₁, a', as₂, rfl, ?_, hb⟩
              rw [List.filterMapM_cons, hkept]
              exact bind_eq_ok.mpr ⟨some c, rfl, bind_eq_ok.mpr ⟨before, hbefore, rfl⟩⟩

theorem mapM_congr {f g : α → Except ε β} {as : List α} (h : ∀ a ∈ as, f a = g a) :
    as.mapM f = as.mapM g := by
  induction as with
  | nil => rfl
  | cons a as ih =>
      rw [List.mapM_cons, List.mapM_cons, h a List.mem_cons_self,
        ih fun a' ha' => h a' (List.mem_cons_of_mem a ha')]

theorem mapM_congr_of_forall₂ {R : α → β → Prop} {f : α → Except ε γ} {g : β → Except ε γ}
    {as : List α} {bs : List β} (h : List.Forall₂ R as bs) (hfg : ∀ a b, R a b → f a = g b) :
    as.mapM f = bs.mapM g := by
  induction h with
  | nil => rfl
  | cons hab _ ih => rw [List.mapM_cons, List.mapM_cons, hfg _ _ hab, ih]

theorem filterMapM_congr {f g : α → Except ε (Option β)} {as : List α}
    (h : ∀ a ∈ as, f a = g a) : as.filterMapM f = as.filterMapM g := by
  induction as with
  | nil => rfl
  | cons a as ih =>
      rw [List.filterMapM_cons, List.filterMapM_cons, h a List.mem_cons_self,
        ih fun a' ha' => h a' (List.mem_cons_of_mem a ha')]

theorem foldlM_congr {f g : β → α → Except ε β} {as : List α} {b : β}
    (h : ∀ a ∈ as, ∀ b, f b a = g b a) : as.foldlM f b = as.foldlM g b := by
  induction as generalizing b with
  | nil => rfl
  | cons a as ih =>
      rw [List.foldlM_cons, List.foldlM_cons, h a List.mem_cons_self]
      congr 1
      funext b'
      exact ih fun a' ha' => h a' (List.mem_cons_of_mem a ha')

/-- Folding over results is computing all of them and then folding over them. -/
theorem foldlM_eq_map (f : β → γ → β) (g : α → Except ε γ) (as : List α) (b : β) :
    as.foldlM (fun b a => do return f b (← g a)) b = (List.foldl f b) <$> as.mapM g := by
  induction as generalizing b with
  | nil => rfl
  | cons a as ih =>
      rw [List.foldlM_cons, List.mapM_cons]
      cases g a with
      | error e => rfl
      | ok c =>
          refine (ih (f b c)).trans ?_
          cases as.mapM g <;> rfl

theorem bind_congr_of_ok {x y : Except ε α} {f g : α → Except ε β} (hx : x = y)
    (hf : ∀ a, x = .ok a → f a = g a) : x >>= f = y >>= g := by
  subst hx
  cases x with
  | error e => rfl
  | ok a => exact hf a rfl

/-- What every step preserves is preserved by all of them. -/
theorem foldlM_preserves {P : β → Prop} {f : β → α → Except ε β} {as : List α} {b c : β}
    (h : as.foldlM f b = .ok c) (hb : P b)
    (hstep : ∀ a ∈ as, ∀ b c, P b → f b a = .ok c → P c) : P c := by
  induction as generalizing b with
  | nil =>
      cases h
      exact hb
  | cons a as ih =>
      rw [List.foldlM_cons] at h
      obtain ⟨b', hb', h⟩ := bind_eq_ok.mp h
      exact ih h (hstep a List.mem_cons_self b b' hb hb') fun a' ha' =>
        hstep a' (List.mem_cons_of_mem a ha')

/-! ## When a computation fails -/

theorem bind_eq_error {x : Except ε α} {f : α → Except ε β} {e : ε} :
    x >>= f = .error e ↔ x = .error e ∨ ∃ a, x = .ok a ∧ f a = .error e := by
  cases x <;> simp [bind, Except.bind]

/-- A fold fails at the first step that fails, after all steps before it. -/
theorem foldlM_eq_error {f : β → α → Except ε β} {as : List α} {b : β} {e : ε} :
    as.foldlM f b = .error e ↔ ∃ before a after c, as = before ++ a :: after ∧
      before.foldlM f b = .ok c ∧ f c a = .error e := by
  induction as generalizing b with
  | nil => simp [pure, Except.pure]
  | cons a as ih =>
      rw [List.foldlM_cons, bind_eq_error]
      constructor
      · rintro (h | ⟨b', hb', h⟩)
        · exact ⟨[], a, as, b, rfl, rfl, h⟩
        · obtain ⟨before, a', after, c, rfl, hbefore, h⟩ := ih.mp h
          refine ⟨a :: before, a', after, c, rfl, ?_, h⟩
          rw [List.foldlM_cons, hb']
          exact hbefore
      · rintro ⟨before, a', after, c, has, hbefore, h⟩
        cases before with
        | nil =>
            cases has
            cases hbefore
            exact .inl h
        | cons a'' before =>
            cases has
            rw [List.foldlM_cons] at hbefore
            obtain ⟨b', hb', hbefore⟩ := bind_eq_ok.mp hbefore
            exact .inr ⟨b', hb', ih.mpr ⟨before, a', after, c, rfl, hbefore, h⟩⟩

/-- A list of computations fails as the first one of them that fails. -/
theorem mapM_eq_error {f : α → Except ε β} {as : List α} {e : ε} :
    as.mapM f = .error e ↔ ∃ before a after, as = before ++ a :: after ∧
      (∀ b ∈ before, ∃ c, f b = .ok c) ∧ f a = .error e := by
  induction as with
  | nil => simp [pure, Except.pure]
  | cons a as ih =>
      have htail (b : β) : (as.mapM f >>= fun bs => pure (b :: bs)) = .error e ↔
          as.mapM f = .error e := by
        simp [bind_eq_error, pure, Except.pure]
      simp only [List.mapM_cons, bind_eq_error (x := f a), htail, ih]
      constructor
      · rintro (h | ⟨b, hb, before, a', after, rfl, hbefore, h⟩)
        · exact ⟨[], a, as, rfl, by simp, h⟩
        · exact ⟨a :: before, a', after, rfl, List.forall_mem_cons.mpr ⟨⟨b, hb⟩, hbefore⟩, h⟩
      · rintro ⟨before, a', after, has, hbefore, h⟩
        cases before with
        | nil =>
            cases has
            exact .inl h
        | cons a'' before =>
            cases has
            obtain ⟨⟨b, hb⟩, hbefore⟩ := List.forall_mem_cons.mp hbefore
            exact .inr ⟨b, hb, before, a', after, rfl, hbefore, h⟩

theorem exists_eq_ok_iff {x : Except ε α} : (∃ a, x = .ok a) ↔ ∀ e, x ≠ .error e := by
  cases x <;> simp

/-- A list of computations succeeds where all of them do. -/
theorem exists_mapM_eq_ok_iff {f : α → Except ε β} {as : List α} :
    (∃ bs, as.mapM f = .ok bs) ↔ ∀ a ∈ as, ∃ b, f a = .ok b := by
  constructor
  · rintro ⟨bs, h⟩ a ha
    obtain ⟨b, -, hb⟩ := exists_mem_of_mapM h ha
    exact ⟨b, hb⟩
  · intro h
    refine exists_eq_ok_iff.mpr fun e herror => ?_
    obtain ⟨before, a, after, rfl, -, ha⟩ := mapM_eq_error.mp herror
    exact exists_eq_ok_iff.mp (h a (by simp)) e ha

/-- Where each computation fails as a list of computations does, they fail as all of these do. -/
theorem mapM_eq_error_iff_flatMap {f : α → Except ε β} {g : α → List γ} {δ : Type}
    {k : γ → Except ε δ} (h : ∀ a e, f a = .error e ↔ (g a).mapM k = .error e) {as : List α}
    {e : ε} :
    as.mapM f = .error e ↔ (as.flatMap g).mapM k = .error e := by
  induction as with
  | nil => simp [pure, Except.pure]
  | cons a as ih =>
      have hok : (∃ b, f a = .ok b) ↔ ∃ cs, (g a).mapM k = .ok cs := by
        rw [exists_eq_ok_iff, exists_eq_ok_iff]
        exact forall_congr' fun e => not_congr (h a e)
      rw [List.mapM_cons, List.flatMap_cons, List.mapM_append, bind_eq_error, bind_eq_error]
      refine or_congr (h a e) ?_
      simp only [bind_eq_error, pure, Except.pure, reduceCtorEq, and_false, exists_false, or_false]
      rw [exists_and_right, exists_and_right, hok, ih]

/-! ## What a computation rests on -/

variable {φ : Type}

/-- In every environment, a computation that rests on others succeeds only where all of them do
and fails only as one of them does; and it depends on the environment only through them. -/
structure RestsOn (others : List (φ → Except ε γ)) (x : φ → Except ε α) : Prop where
  exists_ok : ∀ {f a}, x f = .ok a → ∀ y ∈ others, ∃ c, y f = .ok c
  exists_error : ∀ {f e}, x f = .error e → ∃ y ∈ others, y f = .error e
  congr : ∀ {f g}, (∀ y ∈ others, y f = y g) → x f = x g

namespace RestsOn

variable {others more : List (φ → Except ε γ)}

theorem ok (a : α) : RestsOn ([] : List (φ → Except ε γ)) fun _ => (.ok a : Except ε α) where
  exists_ok := by simp
  exists_error := by simp
  congr := by simp

theorem self (x : φ → Except ε γ) : RestsOn [x] x where
  exists_ok := by
    intro f a h y hy
    rw [List.mem_singleton.mp hy]
    exact ⟨a, h⟩
  exists_error := by simp
  congr := by simp

theorem bind {x : φ → Except ε α} {k : α → φ → Except ε β} (hx : RestsOn others x)
    (hk : ∀ a, RestsOn more (k a)) : RestsOn (others ++ more) fun f => x f >>= fun a => k a f where
  exists_ok := by
    intro f b h y hy
    obtain ⟨a, ha, hb⟩ := bind_eq_ok.mp h
    rcases List.mem_append.mp hy with hy | hy
    · exact hx.exists_ok ha y hy
    · exact (hk a).exists_ok hb y hy
  exists_error := by
    intro f e h
    cases ha : x f with
    | error e' =>
        rw [ha] at h
        cases h
        obtain ⟨y, hy, he⟩ := hx.exists_error ha
        exact ⟨y, List.mem_append_left more hy, he⟩
    | ok a =>
        rw [ha] at h
        obtain ⟨y, hy, he⟩ := (hk a).exists_error h
        exact ⟨y, List.mem_append_right others hy, he⟩
  congr := by
    intro f g h
    simp only [hx.congr fun y hy => h y (List.mem_append_left more hy)]
    congr 1
    funext a
    exact (hk a).congr fun y hy => h y (List.mem_append_right others hy)

theorem map {x : φ → Except ε α} (hx : RestsOn others x) (h : α → β) :
    RestsOn others fun f => h <$> x f := by
  have hbind := hx.bind (k := fun a _ => pure (h a)) fun a => ok (h a)
  simpa only [List.append_nil, bind_pure_comp] using hbind

theorem mapM {k : α → φ → Except ε β} {rests : α → List (φ → Except ε γ)} {as : List α}
    (h : ∀ a ∈ as, RestsOn (rests a) (k a)) :
    RestsOn (as.flatMap rests) fun f => as.mapM (k · f) := by
  induction as with
  | nil => exact ok []
  | cons a as ih =>
      simp only [List.mapM_cons, List.flatMap_cons, bind_pure_comp]
      have htail := ih fun a' ha' => h a' (List.mem_cons_of_mem a ha')
      exact (h a List.mem_cons_self).bind fun b => htail.map (b :: ·)

end RestsOn

/-! ## Computations in step -/

/-- Two computations fail with the same error, or succeed with results that are related. -/
inductive InStep (R : α → β → Prop) : Except ε α → Except ε β → Prop
  | error (e : ε) : InStep R (.error e) (.error e)
  | ok {a : α} {b : β} (h : R a b) : InStep R (.ok a) (.ok b)

namespace InStep

variable {α' β' : Type} {R : α → β → Prop} {S : α' → β' → Prop}

theorem refl {R : α → α → Prop} {x : Except ε α} (h : ∀ a, x = .ok a → R a a) : InStep R x x := by
  cases x with
  | error e => exact .error e
  | ok a => exact .ok (h a rfl)

theorem bind {x : Except ε α} {y : Except ε β} {f : α → Except ε α'} {g : β → Except ε β'}
    (hxy : InStep R x y)
    (hfg : ∀ a b, x = .ok a → y = .ok b → R a b → InStep S (f a) (g b)) :
    InStep S (x >>= f) (y >>= g) := by
  cases hxy with
  | error e => exact .error e
  | ok h => exact hfg _ _ rfl rfl h

theorem map {x : Except ε α} {y : Except ε β} {f : α → α'} {g : β → β'} (hxy : InStep R x y)
    (hfg : ∀ a b, R a b → S (f a) (g b)) : InStep S (f <$> x) (g <$> y) := by
  cases hxy with
  | error e => exact .error e
  | ok h => exact .ok (hfg _ _ h)

theorem mapM {f : γ → Except ε α} {g : γ → Except ε β} {cs : List γ}
    (h : ∀ c ∈ cs, InStep R (f c) (g c)) :
    InStep (List.Forall₂ R) (cs.mapM f) (cs.mapM g) := by
  induction cs with
  | nil => exact .ok .nil
  | cons c cs ih =>
      rw [List.mapM_cons, List.mapM_cons]
      have htail := ih fun d hd => h d (List.mem_cons_of_mem c hd)
      refine (h c List.mem_cons_self).bind fun a b _ _ hab => ?_
      exact htail.bind fun as bs _ _ hall => .ok (.cons hab hall)

/-- Where both keep the same places, what is kept is related. -/
theorem filterMapM {f : γ → Except ε (Option α)} {g : γ → Except ε (Option β)} {cs : List γ}
    (h : ∀ c ∈ cs, InStep (Option.Rel R) (f c) (g c)) :
    InStep (List.Forall₂ R) (cs.filterMapM f) (cs.filterMapM g) := by
  rw [filterMapM_eq_map, filterMapM_eq_map]
  refine (mapM h).map fun as bs hall => ?_
  induction hall with
  | nil => exact .nil
  | cons hab _ ih =>
      cases hab with
      | some hab => exact .cons hab ih
      | none => exact ih

theorem imp {R' : α → β → Prop} {x : Except ε α} {y : Except ε β} (h : InStep R x y)
    (hR : ∀ a b, R a b → R' a b) : InStep R' x y := by
  cases h with
  | error e => exact .error e
  | ok h => exact .ok (hR _ _ h)

/-- The related results are those of the computations. -/
theorem and_ok {x : Except ε α} {y : Except ε β} (h : InStep R x y) :
    InStep (fun a b => x = .ok a ∧ R a b) x y := by
  cases h with
  | error e => exact .error e
  | ok h => exact .ok ⟨rfl, h⟩

theorem eq {x y : Except ε α} (h : InStep Eq x y) : x = y := by
  cases h with
  | error e => rfl
  | ok h => rw [h]

theorem error_iff {x : Except ε α} {y : Except ε β} (h : InStep R x y) (e : ε) :
    x = .error e ↔ y = .error e := by
  cases h with
  | error e' => simp
  | ok h => simp

theorem of_ok {x : Except ε α} {y : Except ε β} (h : InStep R x y) {a : α} {b : β}
    (hx : x = .ok a) (hy : y = .ok b) : R a b := by
  cases h with
  | error e => cases hx
  | ok h =>
      cases hx
      cases hy
      exact h

end InStep

/-! ## Computations that agree -/

/-- Two computations succeed with the same result, or both fail. -/
def Agrees (x y : Except ε α) : Prop :=
  ∀ a, x = .ok a ↔ y = .ok a

namespace Agrees

theorem refl (x : Except ε α) : Agrees x x :=
  fun _ => Iff.rfl

theorem error (e e' : ε) : Agrees (.error e : Except ε α) (.error e') :=
  fun _ => by simp

theorem of_eq {x y : Except ε α} (h : x = y) : Agrees x y :=
  h ▸ refl x

theorem symm {x y : Except ε α} (h : Agrees x y) : Agrees y x :=
  fun a => (h a).symm

theorem trans {x y z : Except ε α} (hxy : Agrees x y) (hyz : Agrees y z) : Agrees x z :=
  fun a => (hxy a).trans (hyz a)

theorem bind {x y : Except ε α} {f g : α → Except ε β} (hxy : Agrees x y)
    (hfg : ∀ a, x = .ok a → Agrees (f a) (g a)) : Agrees (x >>= f) (y >>= g) := by
  intro b
  rw [bind_eq_ok, bind_eq_ok]
  refine exists_congr fun a => ?_
  rw [← hxy a]
  exact and_congr_right fun ha => hfg a ha b

theorem map {x y : Except ε α} (hxy : Agrees x y) (f : α → β) : Agrees (f <$> x) (f <$> y) := by
  intro b
  rw [map_eq_ok, map_eq_ok]
  exact exists_congr fun a => and_congr_left' (hxy a)

theorem mapM {f : α → Except ε γ} {g : β → Except ε γ} {as : List α} {bs : List β}
    (h : List.Forall₂ (fun a b => Agrees (f a) (g b)) as bs) : Agrees (as.mapM f) (bs.mapM g) := by
  induction h with
  | nil => exact .refl _
  | cons hab _ ih =>
      rw [List.mapM_cons, List.mapM_cons]
      exact hab.bind fun c _ => ih.bind fun cs _ => .refl _

theorem filterMapM {f g : α → Except ε (Option β)} {as : List α}
    (h : ∀ a ∈ as, Agrees (f a) (g a)) : Agrees (as.filterMapM f) (as.filterMapM g) := by
  rw [filterMapM_eq_map, filterMapM_eq_map]
  exact (mapM (List.forall₂_same.mpr h)).map _

theorem foldlM {f g : β → α → Except ε β} {as : List α} (h : ∀ a ∈ as, ∀ b, Agrees (f b a) (g b a))
    (b : β) : Agrees (as.foldlM f b) (as.foldlM g b) := by
  induction as generalizing b with
  | nil => exact .refl _
  | cons a as ih =>
      rw [List.foldlM_cons, List.foldlM_cons]
      rw [List.forall_mem_cons] at h
      exact (h.1 b).bind fun c _ => ih h.2 c

/-- The order of steps that commute does not matter. -/
theorem foldlM_perm {f : β → α → Except ε β} {as as' : List α} (hperm : as.Perm as')
    (h : as.Pairwise fun a a' => ∀ b, Agrees (f b a >>= (f · a')) (f b a' >>= (f · a))) (b : β) :
    Agrees (as.foldlM f b) (as'.foldlM f b) := by
  induction hperm generalizing b with
  | nil => exact .refl _
  | cons a _ ih =>
      rw [List.foldlM_cons, List.foldlM_cons]
      exact (Agrees.refl _).bind fun c _ => ih (List.pairwise_cons.mp h).2 c
  | swap a a' as =>
      simp only [List.foldlM_cons]
      rw [← bind_assoc, ← bind_assoc]
      have hswap := (List.pairwise_cons.mp h).1 a List.mem_cons_self b
      exact hswap.bind fun c _ => .refl _
  | trans hperm _ ih ih' =>
      have hsymm : ∀ {a a' : α}, (∀ b, Agrees (f b a >>= (f · a')) (f b a' >>= (f · a))) →
          ∀ b, Agrees (f b a' >>= (f · a)) (f b a >>= (f · a')) := fun h b => (h b).symm
      exact (ih h b).trans (ih' ((hperm.pairwise_iff hsymm).mp h) b)

end Agrees

end ApiTypings.Outcome
