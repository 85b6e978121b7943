import Realmd.Protocols
set_option autoImplicit false

namespace Interaction

variable {C : Type} {R : C → Type} {α β ω : Type}

/-- All along an execution the surroundings satisfy `I`, and at its end the result and
the surroundings satisfy `Q`. -/
def Prog.Holds (e : Env C R ω) (I : ω → Prop) (Q : α → ω → Prop) : Prog C R α → ω → Prop
  | .ret a, w => I w ∧ Q a w
  | .ask c k, w => I w ∧ (k (e c w).1).Holds e I Q (e c w).2

variable {e : Env C R ω} {I : ω → Prop} {Q : α → ω → Prop} {p : Prog C R α} {w : ω}

theorem Prog.Holds.bind {Q' : β → ω → Prop} {f : α → Prog C R β} (h : p.Holds e I Q w)
    (hf : ∀ a w', Q a w' → (f a).Holds e I Q' w') : (p >>= f).Holds e I Q' w := by
  induction p generalizing w with
  | ret a => exact hf a w h.2
  | ask c k ih => exact ⟨h.1,ih _ h.2⟩

theorem Prog.Holds.instants (h : p.Holds e I Q w) : ∀ w' ∈ p.instants e w, I w' := by
  induction p generalizing w with
  | ret a =>
    intro w' hmem
    rw [List.mem_singleton.mp hmem]
    exact h.1
  | ask c k ih =>
    intro w' hmem
    rcases List.mem_cons.mp hmem with rfl | htail
    · exact h.1
    · exact ih _ h.2 w' htail

/-- Whatever the replies, the calls a program makes and its result satisfy `T`. -/
def Prog.Traces (T : List (Event C R) → α → Prop) (p : Prog C R α) : Prop :=
  ∀ t a, p.Runs t a → T t a

theorem Prog.traces_ret {T : List (Event C R) → α → Prop} {a : α} (h : T [] a) :
    (Prog.ret a : Prog C R α).Traces T := by
  rintro t b ⟨rfl,rfl⟩
  exact h

theorem Prog.traces_ask {T : List (Event C R) → α → Prop} {c : C} {k : R c → Prog C R α}
    (h : ∀ r, (k r).Traces fun t a => T (⟨c,r⟩ :: t) a) : (Prog.ask c k).Traces T := by
  rintro t a ⟨r,t',rfl,hr⟩
  exact h r t' a hr

theorem Prog.Traces.bind {T : List (Event C R) → α → Prop} {T' : List (Event C R) → β → Prop}
    {f : α → Prog C R β} (h : p.Traces T)
    (hf : ∀ t a, T t a → (f a).Traces fun t' b => T' (t ++ t') b) : (p >>= f).Traces T' := by
  intro t b hr
  obtain ⟨t₁,t₂,a,rfl,h₁,h₂⟩ := Prog.runs_bind.mp hr
  exact hf t₁ a (h t₁ a h₁) t₂ b h₂

theorem Prog.Traces.mono {T T' : List (Event C R) → α → Prop} (h : p.Traces T)
    (hT : ∀ t a, T t a → T' t a) : p.Traces T' :=
  fun t a hr => hT t a (h t a hr)

/-- Where every call has some reply, what the runs of a program call is all it calls. -/
theorem Prog.meets_of_runs [∀ c, Inhabited (R c)] {P : C → Prop}
    (h : ∀ t a, p.Runs t a → ∀ ev ∈ t, P ev.call) : p.Meets P fun _ => True := by
  induction p with
  | ret a => trivial
  | ask c k ih =>
    refine ⟨?_,fun r => ih r fun t a hr ev hmem => ?_⟩
    · obtain ⟨t,a,hr⟩ := (After.start : (k default).After [] (k default)).completes
      exact h _ a ⟨default,t,rfl,hr⟩ ⟨c,default⟩ List.mem_cons_self
    · exact h _ a ⟨r,t,rfl,hr⟩ ev (List.mem_cons_of_mem _ hmem)

section
variable {D : Type} {S : D → Type} {h : (c : C) → Prog D S (R c)} {t t₁ t₂ : List (Event C R)}
  {u : List (Event D S)}

theorem Expands.append_split (hexpands : Expands h (t₁ ++ t₂) u) :
    ∃ u₁ u₂, u = u₁ ++ u₂ ∧ Expands h t₁ u₁ ∧ Expands h t₂ u₂ := by
  induction t₁ generalizing u with
  | nil => exact ⟨[],u,rfl,.nil,hexpands⟩
  | cons ev t₁ ih =>
    cases hexpands with
    | cons hc ht =>
      obtain ⟨u₁,u₂,rfl,h₁,h₂⟩ := ih ht
      exact ⟨_ ++ u₁,u₂,(List.append_assoc ..).symm,.cons hc h₁,h₂⟩

theorem Prog.Meets.expand {P : C → Prop} {P' : D → Prop} {Q : α → Prop} (hp : p.Meets P Q)
    (hh : ∀ c, P c → (h c).Meets P' fun _ => True) : (p.expand h).Meets P' Q := by
  induction p with
  | ret a => exact hp
  | ask c k ih => exact (hh c hp.1).bind fun r _ => ih r (hp.2 r)

theorem Expands.meets {P : D → Prop} (hexpands : Expands h t u)
    (hP : ∀ ev ∈ t, (h ev.call).Meets P fun _ => True) : ∀ ev ∈ u, P ev.call := by
  induction hexpands with
  | nil => simp
  | cons hc ht ih =>
    intro ev hmem
    rcases List.mem_append.mp hmem with hfirst | hrest
    · exact ((hP _ List.mem_cons_self).runs hc).1 ev hfirst
    · exact ih (fun ev hev => hP ev (List.mem_cons_of_mem _ hev)) ev hrest

end

def callsOf (i : Nat) (log : List (Nat × Event C R)) : List (Event C R) :=
  log.filterMap fun entry => if entry.1 = i then some entry.2 else none

section
variable {i : Nat} {ev : Event C R} {log l₁ l₂ : List (Nat × Event C R)}

theorem mem_callsOf : ev ∈ callsOf i log ↔ (i,ev) ∈ log := by
  rw [callsOf,List.mem_filterMap]
  constructor
  · rintro ⟨⟨j,ev'⟩,hmem,heq⟩
    simp only [Option.ite_none_right_eq_some,Option.some.injEq] at heq
    obtain ⟨rfl,rfl⟩ := heq
    exact hmem
  · exact fun hmem => ⟨_,hmem,if_pos rfl⟩

theorem callsOf_split {before after : List (Event C R)}
    (h : callsOf i log = before ++ ev :: after) :
    ∃ l₁ l₂, log = l₁ ++ (i,ev) :: l₂ ∧ callsOf i l₁ = before ∧ callsOf i l₂ = after := by
  obtain ⟨l₁,l₂,rfl,hbefore,hrest⟩ := List.filterMap_eq_append_iff.mp h
  obtain ⟨skipped,⟨j,ev'⟩,l₃,rfl,hskipped,hev,hafter⟩ := List.filterMap_eq_cons_iff.mp hrest
  simp only [Option.ite_none_right_eq_some,Option.some.injEq] at hev
  obtain ⟨rfl,rfl⟩ := hev
  refine ⟨l₁ ++ skipped,l₃,by simp,?_,hafter⟩
  rw [callsOf,List.filterMap_append,List.filterMap_eq_nil_iff.mpr hskipped,List.append_nil]
  exact hbefore

theorem Pool.Traced.passes [∀ c, Inhabited (R c)] {κ : Type} {body : κ → Prog C R α}
    {p : Pool C R κ ω α} (h : p.Traced body) (hsplit : p.log = l₁ ++ (i,ev) :: l₂) :
    ∃ th later a, p.threads[i]? = some th ∧
      (body th.tag).Runs (callsOf i l₁ ++ ev :: later) a := by
  have hi : i < p.threads.length := h.known (i,ev) (by simp [hsplit])
  have hth : p.threads[i]? = some p.threads[i] := List.getElem?_eq_getElem hi
  obtain ⟨t,a,hruns⟩ := (h.after i _ hth).completes
  have htrace : p.trace i = callsOf i l₁ ++ ev :: callsOf i l₂ := by
    simp [Pool.trace,callsOf,hsplit]
  rw [htrace,List.append_assoc] at hruns
  exact ⟨_,callsOf i l₂ ++ t,a,hth,hruns⟩

end

theorem Pool.run_answered {κ : Type} {e : Env C R ω} {body : κ → Prog C R α} {work : ω → ω}
    (moves : List (Move κ)) {p : Pool C R κ ω α}
    (hp : ∀ entry ∈ p.log, ∃ w, entry.2.reply = (e entry.2.call w).1) :
    ∀ entry ∈ (p.run e body work moves).log, ∃ w, entry.2.reply = (e entry.2.call w).1 := by
  refine Pool.run_keeps e body work
    (I := fun p => ∀ entry ∈ p.log, ∃ w, entry.2.reply = (e entry.2.call w).1) ?_ moves hp
  intro p m hlog
  generalize hp' : p.step e body work m = p'
  have hspec := hp' ▸ p.step_spec e body work m
  cases hspec with
  | start tag => exact hlog
  | idle i => exact hlog
  | work => exact hlog
  | call hth =>
    intro entry hmem
    rcases List.mem_append.mp hmem with hold | hnew
    · exact hlog entry hold
    · rw [List.mem_singleton.mp hnew]
      exact ⟨p.env,rfl⟩

section
variable {σ : Type} {ok : σ → C → Prop} {next : σ → Event C R → σ} {P : C → Prop}
  {Q : α → Prop}

theorem Prog.Meets.follows_any (h : p.Meets P Q) (hok : ∀ s c, P c → ok s c) (s : σ) :
    p.Follows ok next (fun _ a => Q a) s := by
  induction p generalizing s with
  | ret a => exact h
  | ask c k ih => exact ⟨hok s c h.1,fun r => ih r (h.2 r) _⟩

theorem Prog.Meets.follows (h : p.Meets P Q) (hok : ∀ s c, P c → ok s c)
    (hnext : ∀ s c r, P c → next s ⟨c,r⟩ = s) (s : σ) :
    p.Follows ok next (fun s' a => s' = s ∧ Q a) s := by
  induction p with
  | ret a => exact ⟨rfl,h⟩
  | ask c k ih =>
    refine ⟨hok s c h.1,fun r => ?_⟩
    rw [hnext s c r h.1]
    exact ih r (h.2 r)

theorem Prog.Follows.after {Q : σ → α → Prop} {q : Prog C R α} {t : List (Event C R)} {s : σ}
    (h : p.Follows ok next Q s) (ht : p.After t q) :
    q.Follows ok next Q (t.foldl next s) := by
  induction ht with
  | start => exact h
  | call ht r ih =>
    rw [List.foldl_append]
    exact ih.2 r

end

/-- With so much to spend a program can pay for each call it makes, whatever the replies,
and has the credit of its result left. -/
def Prog.Affords (price : C → Nat) (credit : α → Nat) (n : Nat) (p : Prog C R α) : Prop :=
  p.Follows (fun m c => price c ≤ m) (fun m ev => m-price ev.call) (fun m a => credit a ≤ m) n

section
variable {price : C → Nat} {credit : α → Nat} {n m : Nat}

theorem Prog.Affords.more (h : p.Affords price credit n) (hn : n ≤ m) :
    p.Affords price credit m := by
  induction p generalizing n m with
  | ret a => exact Nat.le_trans h hn
  | ask c k ih => exact ⟨Nat.le_trans h.1 hn,fun r => ih r (h.2 r) (Nat.sub_le_sub_right hn _)⟩

theorem Prog.affords_ask {c : C} {k : R c → Prog C R α} (hc : price c+m ≤ n)
    (hk : ∀ r, (k r).Affords price credit m) : (Prog.ask c k).Affords price credit n := by
  refine ⟨by omega,fun r => (hk r).more ?_⟩
  change m ≤ n-price c
  omega

theorem Prog.affords_call {c : C} {k : R c → Prog C R α} (hc : price c+m ≤ n)
    (hk : ∀ r, (k r).Affords price credit m) : (call c >>= k).Affords price credit n :=
  Prog.affords_ask hc hk

theorem Prog.Affords.bind {credit' : β → Nat} {f : α → Prog C R β} (credit : α → Nat)
    (h : p.Affords price credit n) (hf : ∀ a, (f a).Affords price credit' (credit a)) :
    (p >>= f).Affords price credit' n :=
  Prog.Follows.bind h fun _ a hcredit => (hf a).more hcredit

theorem Prog.Meets.affords {Q : α → Prop} (h : p.Meets (price · = 0) Q)
    (hQ : ∀ a, Q a → credit a ≤ n) : p.Affords price credit n := by
  induction p with
  | ret a => exact hQ a h
  | ask c k ih => exact Prog.affords_ask (by have := h.1; omega) fun r => ih r (h.2 r)

def spent (price : C → Nat) : List (Event C R) → Nat
  | [] => 0
  | ev :: t => price ev.call+spent price t

theorem spent_append (t t' : List (Event C R)) :
    spent price (t ++ t') = spent price t+spent price t' := by
  induction t with
  | nil => simp [spent]
  | cons ev t ih =>
    simp only [List.cons_append,spent,ih]
    omega

theorem Prog.Affords.runs (h : p.Affords price credit n) {t : List (Event C R)} {a : α}
    (hr : p.Runs t a) : spent price t+credit a ≤ n := by
  induction p generalizing n t with
  | ret b =>
    obtain ⟨rfl,rfl⟩ := hr
    have hcredit : credit b ≤ n := h
    simpa [spent] using hcredit
  | ask c k ih =>
    obtain ⟨r,t',rfl,hr⟩ := hr
    have hrest := ih r (h.2 r) hr
    have hfirst : price c ≤ n := h.1
    simp only [spent] at hrest ⊢
    omega

end

end Interaction
