import Realmd.Interleaving
set_option autoImplicit false

namespace Interaction

variable {C D : Type} {R : C → Type} {S : D → Type} {α β σ ε : Type}

theorem append_split {a b l₁ l₂ : List ε} {x : ε} (h : a ++ b = l₁ ++ x :: l₂) :
    (∃ c, a = l₁ ++ x :: c) ∨ ∃ c, l₁ = a ++ c ∧ b = c ++ x :: l₂ := by
  rcases List.append_eq_append_iff.mp h with ⟨c,hl,hb⟩ | ⟨c,ha,hx⟩
  · exact .inr ⟨c,hl,hb⟩
  · cases c with
    | nil =>
      rw [List.append_nil] at ha
      exact .inr ⟨[],by rw [ha,List.append_nil],hx.symm⟩
    | cons y c =>
      obtain ⟨rfl,-⟩ := List.cons.inj hx
      exact .inl ⟨c,ha⟩

theorem snoc_split {l l₁ l₂ : List ε} {x y : ε} (h : l ++ [x] = l₁ ++ y :: l₂) :
    l₂ = [] ∧ x = y ∧ l = l₁ ∨ ∃ l₃, l₂ = l₃ ++ [x] ∧ l = l₁ ++ y :: l₃ := by
  rcases List.eq_nil_or_concat' l₂ with rfl | ⟨l₃,z,rfl⟩
  · obtain ⟨rfl,hlast⟩ := List.append_inj' h rfl
    exact .inl ⟨rfl,List.singleton_inj.mp hlast,rfl⟩
  · rw [← List.cons_append,← List.append_assoc] at h
    obtain ⟨rfl,hlast⟩ := List.append_inj' h rfl
    obtain rfl := List.singleton_inj.mp hlast
    exact .inr ⟨l₃,rfl,rfl⟩

/-- A program each of whose calls is carried out by a program of its own. -/
def Prog.expand (h : (c : C) → Prog D S (R c)) : Prog C R α → Prog D S α
  | .ret a => .ret a
  | .ask c k => h c >>= fun r => (k r).expand h

theorem Prog.bind_assoc {γ : Type} (p : Prog C R α) (f : α → Prog C R β) (g : β → Prog C R γ) :
    (p >>= f) >>= g = p >>= fun a => f a >>= g := by
  induction p with
  | ret a => rfl
  | ask c k ih => exact congrArg (Prog.ask c) (funext ih)

theorem Prog.expand_bind (h : (c : C) → Prog D S (R c)) (p : Prog C R α)
    (f : α → Prog C R β) : (p >>= f).expand h = p.expand h >>= fun a => (f a).expand h := by
  induction p with
  | ret a => rfl
  | ask c k ih =>
    have hrest : (fun r => (k r >>= f).expand h) =
        fun r => (k r).expand h >>= fun a => (f a).expand h := funext ih
    calc
      (Prog.ask c k >>= f).expand h = h c >>= fun r => (k r >>= f).expand h := rfl
      _ = h c >>= fun r => (k r).expand h >>= fun a => (f a).expand h := by rw [hrest]
      _ = (Prog.ask c k).expand h >>= fun a => (f a).expand h := (bind_assoc _ _ _).symm

/-- The calls of a program with those that carried them out. -/
inductive Expands (h : (c : C) → Prog D S (R c)) :
    List (Event C R) → List (Event D S) → Prop where
  | nil : Expands h [] []
  | cons {c : C} {r : R c} {t : List (Event C R)} {u v : List (Event D S)}
      (hc : (h c).Runs u r) (ht : Expands h t v) : Expands h (⟨c,r⟩ :: t) (u ++ v)

theorem Prog.expand_runs {h : (c : C) → Prog D S (R c)} {p : Prog C R α}
    {u : List (Event D S)} {a : α} (hp : (p.expand h).Runs u a) :
    ∃ t, p.Runs t a ∧ Expands h t u := by
  induction p generalizing u with
  | ret b =>
    obtain ⟨rfl,rfl⟩ := hp
    exact ⟨[],⟨rfl,rfl⟩,.nil⟩
  | ask c k ih =>
    obtain ⟨v,w,r,rfl,hc,hrest⟩ := runs_bind.mp hp
    obtain ⟨t,ht,hexpands⟩ := ih r hrest
    exact ⟨⟨c,r⟩ :: t,⟨r,t,rfl,ht⟩,.cons hc hexpands⟩

theorem Expands.mem {h : (c : C) → Prog D S (R c)} {t : List (Event C R)}
    {u : List (Event D S)} (hexpands : Expands h t u) {c : C} {r : R c} (hmem : ⟨c,r⟩ ∈ t) :
    ∃ v, (h c).Runs v r ∧ v ⊆ u := by
  induction hexpands with
  | nil => cases hmem
  | @cons c' r' t v w hc ht ih =>
    rcases List.mem_cons.mp hmem with heq | htail
    · cases heq
      exact ⟨v,hc,List.subset_append_left v w⟩
    · obtain ⟨v',hruns,hsub⟩ := ih htail
      exact ⟨v',hruns,List.Subset.trans hsub (List.subset_append_right v w)⟩

theorem Expands.split {h : (c : C) → Prog D S (R c)} {t : List (Event C R)}
    {u : List (Event D S)} (hexpands : Expands h t u) {ev : Event C R} {ev' : Event D S}
    (hown : ∀ c r v, (h c).Runs v r → ev' ∈ v → ⟨c,r⟩ = ev ∧ v = [ev'])
    {u₁ u₂ : List (Event D S)} (hsplit : u = u₁ ++ ev' :: u₂) :
    ∃ t₁ t₂, t = t₁ ++ ev :: t₂ ∧ Expands h t₁ u₁ := by
  induction hexpands generalizing u₁ with
  | nil => simp at hsplit
  | @cons c r t v w hc ht ih =>
    by_cases hmem : ev' ∈ v
    · obtain ⟨hev,rfl⟩ := hown c r v hc hmem
      cases u₁ with
      | nil => exact ⟨[],t,by rw [hev]; rfl,.nil⟩
      | cons first u₁ =>
        obtain ⟨hfirst,hrest⟩ := List.cons.inj hsplit
        obtain ⟨t₁,t₂,rfl,hexpands⟩ := ih hrest
        exact ⟨⟨c,r⟩ :: t₁,t₂,rfl,hfirst ▸ Expands.cons hc hexpands⟩
    · rcases append_split hsplit with ⟨x,rfl⟩ | ⟨x,rfl,hx⟩
      · simp at hmem
      · obtain ⟨t₁,t₂,rfl,hexpands⟩ := ih hx
        exact ⟨⟨c,r⟩ :: t₁,t₂,rfl,.cons hc hexpands⟩

theorem Prog.After.completes [∀ c, Inhabited (R c)] {p q : Prog C R α} {t : List (Event C R)}
    (h : p.After t q) : ∃ t' a, p.Runs (t ++ t') a := by
  have hends : ∃ t' a, q.Runs t' a := by
    clear h
    induction q with
    | ret a => exact ⟨[],a,rfl,rfl⟩
    | ask c k ih =>
      obtain ⟨t',a,hruns⟩ := ih default
      exact ⟨⟨c,default⟩ :: t',a,default,t',rfl,hruns⟩
  obtain ⟨t',a,hruns⟩ := hends
  exact ⟨t',a,h.runs hruns⟩

section
variable (ok : σ → C → Prop) (next : σ → Event C R → σ)

/-- Every call of a program is allowed in the state its earlier calls have led to, and its
result goes with the last one. -/
def Prog.Follows (Q : σ → α → Prop) : σ → Prog C R α → Prop
  | s, .ret a => Q s a
  | s, .ask c k => ok s c ∧ ∀ r, (k r).Follows Q (next s ⟨c,r⟩)

end

section
variable {ok : σ → C → Prop} {next : σ → Event C R → σ}

theorem Prog.Follows.bind {Q : σ → α → Prop} {Q' : σ → β → Prop} {p : Prog C R α}
    {f : α → Prog C R β} {s : σ} (hp : p.Follows ok next Q s)
    (hf : ∀ s a, Q s a → (f a).Follows ok next Q' s) : (p >>= f).Follows ok next Q' s := by
  induction p generalizing s with
  | ret a => exact hf s a hp
  | ask c k ih => exact ⟨hp.1,fun r => ih r (hp.2 r)⟩

theorem Prog.Follows.mono {Q Q' : σ → α → Prop} {p : Prog C R α} {s : σ}
    (hp : p.Follows ok next Q s) (hQ : ∀ s a, Q s a → Q' s a) : p.Follows ok next Q' s := by
  induction p generalizing s with
  | ret a => exact hQ s a hp
  | ask c k ih => exact ⟨hp.1,fun r => ih r (hp.2 r)⟩

theorem Prog.Follows.expand {B : Type} {T : B → Type} {h : (b : B) → Prog C R (T b)} {s : σ}
    (hh : ∀ b, (h b).Follows ok next (fun s' _ => s' = s) s) (p : Prog B T α) :
    (p.expand h).Follows ok next (fun s' _ => s' = s) s := by
  induction p with
  | ret a => rfl
  | ask b k ih =>
    refine (hh b).bind ?_
    rintro s' r rfl
    exact ih r

end

/-- The steps of a machine from its first state on, with what each was labelled. -/
inductive Path (step : σ → ε → σ → Prop) (first : σ) : List ε → σ → Prop where
  | nil : Path step first [] first
  | snoc {l : List ε} {s s' : σ} {e : ε} (h : Path step first l s) (hstep : step s e s') :
      Path step first (l ++ [e]) s'

theorem Path.split {step : σ → ε → σ → Prop} {first s : σ} {l l' : List ε} {e : ε}
    (h : Path step first (l ++ e :: l') s) : ∃ s₁ s₂, Path step first l s₁ ∧ step s₁ e s₂ := by
  generalize hl : l ++ e :: l' = whole at h
  induction h generalizing l' with
  | nil => simp at hl
  | @snoc whole s₁ s₂ last h hstep ih =>
    rcases List.eq_nil_or_concat' l' with rfl | ⟨l'',z,rfl⟩
    · obtain ⟨rfl,hlast⟩ := List.append_inj' hl rfl
      obtain rfl := List.singleton_inj.mp hlast
      exact ⟨s₁,s₂,h,hstep⟩
    · rw [← List.cons_append,← List.append_assoc] at hl
      exact ih (List.append_inj' hl rfl).1

end Interaction
