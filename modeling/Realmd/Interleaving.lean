import Realmd.Interaction
set_option autoImplicit false

namespace Interaction

variable {C : Type} {R : C → Type} {α β ω κ : Type}

inductive Prog.After (p : Prog C R α) : List (Event C R) → Prog C R α → Prop where
  | start : After p [] p
  | call {t : List (Event C R)} {c : C} {k : R c → Prog C R α} (h : After p t (.ask c k))
      (r : R c) : After p (t ++ [⟨c,r⟩]) (k r)

theorem Prog.After.runs {p q : Prog C R α} {t : List (Event C R)} (h : p.After t q)
    {t' : List (Event C R)} {a : α} (hq : q.Runs t' a) : p.Runs (t ++ t') a := by
  induction h generalizing t' with
  | start => exact hq
  | @call t c k h r ih =>
    rw [List.append_assoc]
    exact ih ⟨r,t',rfl,hq⟩

structure Thread (C : Type) (R : C → Type) (κ α : Type) where
  tag : κ
  prog : Prog C R α

/-- Programs that take turns, call by call, on shared surroundings, and the calls they
have made so far. -/
structure Pool (C : Type) (R : C → Type) (κ ω α : Type) where
  threads : List (Thread C R κ α)
  env : ω
  log : List (Nat × Event C R)

def Pool.start (env : ω) : Pool C R κ ω α := ⟨[],env,[]⟩

/-- The next turn: a new program, a call of a running one, or a step of the
surroundings by themselves. -/
inductive Move (κ : Type) where
  | start (tag : κ)
  | call (i : Nat)
  | work

def Pool.finished (p : Pool C R κ ω α) (i : Nat) : Bool :=
  match p.threads[i]? with
  | some ⟨_,.ret _⟩ => true
  | _ => false

theorem Pool.finished_iff {p : Pool C R κ ω α} {i : Nat} :
    p.finished i = true ↔ ∃ tag a, p.threads[i]? = some ⟨tag,.ret a⟩ := by
  unfold finished
  split
  · rename_i tag a h
    exact ⟨fun _ => ⟨tag,a,h⟩,fun _ => rfl⟩
  · rename_i h
    refine ⟨nofun,?_⟩
    rintro ⟨tag,a,h'⟩
    exact absurd h' (h tag a)

def Pool.ended (p : Pool C R κ ω α) (i : Nat) : Option (κ × α) :=
  match p.threads[i]? with
  | some ⟨tag,.ret a⟩ => some (tag,a)
  | _ => none

theorem Pool.ended_map {p : Pool C R κ ω α} {i : Nat} {f : κ × α → β} {b : β}
    (h : (p.ended i).map f = some b) :
    ∃ tag a, p.threads[i]? = some ⟨tag,.ret a⟩ ∧ f (tag,a) = b := by
  unfold ended at h
  split at h
  · rename_i tag a hth
    exact ⟨tag,a,hth,Option.some.inj h⟩
  · contradiction

def Pool.record (p : Pool C R κ ω α) (i : Nat) (th : Thread C R κ α) (env : ω)
    (ev : Event C R) : Pool C R κ ω α :=
  ⟨p.threads.set i th,env,p.log ++ [(i,ev)]⟩

theorem Pool.record_self {p : Pool C R κ ω α} {i : Nat} (hi : i < p.threads.length)
    (th : Thread C R κ α) (env : ω) (ev : Event C R) :
    (p.record i th env ev).threads[i]? = some th := by
  simp [record,hi]

theorem Pool.record_other {p : Pool C R κ ω α} {i j : Nat} (hij : i ≠ j)
    (th : Thread C R κ α) (env : ω) (ev : Event C R) :
    (p.record i th env ev).threads[j]? = p.threads[j]? := by
  simp [record,hij]

def Pool.spawn (p : Pool C R κ ω α) (th : Thread C R κ α) : Pool C R κ ω α :=
  { p with threads := p.threads ++ [th] }

theorem Pool.spawn_old {p : Pool C R κ ω α} {i : Nat} {th' : Thread C R κ α}
    (h : p.threads[i]? = some th') (th : Thread C R κ α) :
    (p.spawn th).threads[i]? = some th' := by
  have hi : i < p.threads.length := (List.getElem?_eq_some_iff.mp h).1
  rw [spawn,List.getElem?_append_left hi,h]

theorem Pool.spawn_cases {p : Pool C R κ ω α} {i : Nat} {th th' : Thread C R κ α}
    (h : (p.spawn th).threads[i]? = some th') :
    p.threads[i]? = some th' ∨ i = p.threads.length ∧ th' = th := by
  rw [spawn,List.getElem?_append] at h
  split at h
  · exact .inl h
  · rw [List.getElem?_singleton] at h
    split at h
    · exact .inr ⟨by omega,(Option.some.inj h).symm⟩
    · simp at h

section
variable (e : Env C R ω) (body : κ → Prog C R α) (work : ω → ω)

/-- A turn of a thread that has ended, or was never started, changes nothing. -/
def Pool.step (p : Pool C R κ ω α) : Move κ → Pool C R κ ω α
  | .start tag => p.spawn ⟨tag,body tag⟩
  | .call i =>
      match p.threads[i]? with
      | some ⟨tag,.ask c k⟩ =>
          p.record i ⟨tag,k (e c p.env).1⟩ (e c p.env).2 ⟨c,(e c p.env).1⟩
      | _ => p
  | .work => { p with env := work p.env }

def Pool.run (p : Pool C R κ ω α) (moves : List (Move κ)) : Pool C R κ ω α :=
  moves.foldl (Pool.step e body work) p

inductive Pool.StepSpec (p : Pool C R κ ω α) : Move κ → Pool C R κ ω α → Prop where
  | start (tag : κ) : StepSpec p (.start tag) (p.spawn ⟨tag,body tag⟩)
  | call {i : Nat} {tag : κ} {c : C} {k : R c → Prog C R α}
      (hth : p.threads[i]? = some ⟨tag,.ask c k⟩) :
      StepSpec p (.call i)
        (p.record i ⟨tag,k (e c p.env).1⟩ (e c p.env).2 ⟨c,(e c p.env).1⟩)
  | idle (i : Nat) : StepSpec p (.call i) p
  | work : StepSpec p .work { p with env := work p.env }

theorem Pool.step_spec (p : Pool C R κ ω α) (m : Move κ) :
    p.StepSpec e body work m (p.step e body work m) := by
  cases m with
  | start tag => exact .start tag
  | work => exact .work
  | call i =>
    simp only [step]
    split
    · rename_i hth
      exact .call hth
    · exact .idle i

/-- Every turn of a run is taken in a state in which it is allowed. -/
def Pool.Throughout (allowed : Pool C R κ ω α → Move κ → Prop) :
    List (Move κ) → Pool C R κ ω α → Prop
  | [], _ => True
  | m :: ms, p => allowed p m ∧ Throughout allowed ms (p.step e body work m)

instance instDecidableThroughout {allowed : Pool C R κ ω α → Move κ → Prop}
    [∀ p m, Decidable (allowed p m)] :
    (ms : List (Move κ)) → (p : Pool C R κ ω α) →
      Decidable (Pool.Throughout e body work allowed ms p)
  | [], _ => .isTrue trivial
  | m :: ms, p =>
      have : Decidable (Pool.Throughout e body work allowed ms (p.step e body work m)) :=
        instDecidableThroughout ms _
      inferInstanceAs (Decidable (allowed p m ∧
        Pool.Throughout e body work allowed ms (p.step e body work m)))

theorem Pool.run_rule {I : Pool C R κ ω α → Prop} {allowed : Pool C R κ ω α → Move κ → Prop}
    (hstep : ∀ p m, allowed p m → I p → I (p.step e body work m)) (moves : List (Move κ))
    {p : Pool C R κ ω α} (hp : I p) (h : Throughout e body work allowed moves p) :
    I (p.run e body work moves) := by
  induction moves generalizing p with
  | nil => exact hp
  | cons m ms ih => exact ih (hstep p m h.1 hp) h.2

theorem Pool.run_keeps {I : Pool C R κ ω α → Prop}
    (hstep : ∀ p m, I p → I (p.step e body work m)) (moves : List (Move κ))
    {p : Pool C R κ ω α} (hp : I p) : I (p.run e body work moves) := by
  induction moves generalizing p with
  | nil => exact hp
  | cons m ms ih => exact ih (hstep p m hp)

/-- Each entry of a log is as `F` says it is after those before it. -/
def Along (F : List β → β → Prop) (log : List β) : Prop :=
  ∀ pre x post, log = pre ++ x :: post → F pre x

theorem Along.nil {F : List β → β → Prop} : Along F [] := by
  intro pre x post h
  simp at h

theorem Along.snoc {F : List β → β → Prop} {log : List β} {x : β} (h : Along F log)
    (hx : F log x) : Along F (log ++ [x]) := by
  intro pre y post heq
  rcases List.eq_nil_or_concat post with rfl | ⟨post',z,rfl⟩
  · obtain ⟨rfl,hlast⟩ := List.append_inj' heq rfl
    obtain rfl := List.singleton_injective hlast
    exact hx
  · have hfront : log = pre ++ y :: post' := by
      have hsplit : log ++ [x] = (pre ++ y :: post') ++ [z] := by simpa using heq
      exact (List.append_inj' hsplit rfl).1
    exact h pre y post' hfront

def Pool.trace (p : Pool C R κ ω α) (i : Nat) : List (Event C R) :=
  p.log.filterMap fun entry => if entry.1 = i then some entry.2 else none

/-- Each thread is its program after the calls the log shows of it. -/
structure Pool.Traced (p : Pool C R κ ω α) : Prop where
  known : ∀ entry ∈ p.log, entry.1 < p.threads.length
  after : ∀ i th, p.threads[i]? = some th → (body th.tag).After (p.trace i) th.prog

variable {e body work}

theorem Pool.trace_record (p : Pool C R κ ω α) (i j : Nat) (th : Thread C R κ α) (env : ω)
    (ev : Event C R) :
    (p.record i th env ev).trace j = p.trace j ++ if i = j then [ev] else [] := by
  by_cases hij : i = j <;> simp [trace,record,hij]

theorem Pool.Traced.step {p : Pool C R κ ω α} (h : p.Traced body) (m : Move κ) :
    (p.step e body work m).Traced body := by
  generalize hp' : p.step e body work m = p'
  have hspec := hp' ▸ p.step_spec e body work m
  cases hspec with
  | start tag =>
    constructor
    · intro entry hmem
      have hlt := h.known entry hmem
      simp only [spawn,List.length_append]
      omega
    · intro i th hth
      rcases spawn_cases hth with hold | ⟨rfl,rfl⟩
      · exact h.after i th hold
      · have hnone : p.trace p.threads.length = [] := by
          rw [trace,List.filterMap_eq_nil_iff]
          intro entry hmem
          have hlt := h.known entry hmem
          rw [if_neg (by omega)]
        change (body tag).After (p.trace p.threads.length) (body tag)
        rw [hnone]
        exact .start
  | @call i tag c k hth =>
    have hi : i < p.threads.length := (List.getElem?_eq_some_iff.mp hth).1
    constructor
    · intro entry hmem
      have hlt : entry.1 < p.threads.length := by
        rcases List.mem_append.mp hmem with hold | hnew
        · exact h.known entry hold
        · rw [List.mem_singleton.mp hnew]
          exact hi
      simpa [record] using hlt
    · intro j th hj
      rw [trace_record]
      by_cases hij : i = j
      · subst hij
        rw [record_self hi] at hj
        obtain rfl := Option.some.inj hj
        rw [if_pos rfl]
        exact .call (h.after i _ hth) _
      · rw [record_other hij] at hj
        rw [if_neg hij,List.append_nil]
        exact h.after j th hj
  | idle i => exact h
  | work => exact ⟨h.known,h.after⟩

theorem Pool.Traced.run {p : Pool C R κ ω α} (h : p.Traced body) (moves : List (Move κ)) :
    (p.run e body work moves).Traced body := by
  induction moves generalizing p with
  | nil => exact h
  | cons m ms ih => exact ih (h.step m)

theorem Pool.start_traced (env : ω) :
    (Pool.start env : Pool C R κ ω α).Traced body :=
  ⟨by simp [start],by simp [start]⟩

theorem Pool.Traced.runs {p : Pool C R κ ω α} (h : p.Traced body) {i : Nat} {tag : κ} {a : α}
    (hth : p.threads[i]? = some ⟨tag,.ret a⟩) : (body tag).Runs (p.trace i) a := by
  have hend : (Prog.ret a : Prog C R α).Runs [] a := ⟨rfl,rfl⟩
  have hruns := (h.after i _ hth).runs hend
  rwa [List.append_nil] at hruns

theorem Pool.mem_trace_of_mem_log {p : Pool C R κ ω α} {i : Nat} {ev : Event C R}
    (h : (i,ev) ∈ p.log) : ev ∈ p.trace i :=
  List.mem_filterMap.mpr ⟨(i,ev),h,if_pos rfl⟩

theorem Pool.mem_log_of_mem_trace {p : Pool C R κ ω α} {i : Nat} {ev : Event C R}
    (h : ev ∈ p.trace i) : (i,ev) ∈ p.log := by
  obtain ⟨entry,hmem,hentry⟩ := List.mem_filterMap.mp h
  split at hentry
  · rename_i hi
    obtain rfl := Option.some.inj hentry
    rw [← hi]
    exact hmem
  · simp at hentry

end

structure Pool.Alike {ω' : Type} (rel : ω → ω' → Prop) (p : Pool C R κ ω α)
    (p' : Pool C R κ ω' α) : Prop where
  threads : p.threads = p'.threads
  log : p.log = p'.log
  env : rel p.env p'.env

section
variable {ω' : Type} {e : Env C R ω} {e' : Env C R ω'} {rel : ω → ω' → Prop}
  {work : ω → ω} {work' : ω' → ω'} {p : Pool C R κ ω α} {p' : Pool C R κ ω' α}

theorem Simulates.step (h : Simulates e e' rel)
    (hwork : ∀ {w w'}, rel w w' → rel (work w) (work' w')) (body : κ → Prog C R α)
    (m : Move κ) (hp : Pool.Alike rel p p') :
    Pool.Alike rel (p.step e body work m) (p'.step e' body work' m) := by
  obtain ⟨threads,env,log⟩ := p
  obtain ⟨threads',env',log'⟩ := p'
  obtain ⟨hthreads,hlog,henv⟩ := hp
  simp only at hthreads hlog
  subst hthreads hlog
  cases m with
  | start tag => exact ⟨rfl,rfl,henv⟩
  | work => exact ⟨rfl,rfl,hwork henv⟩
  | call i =>
    simp only [Pool.step]
    split
    · rename_i tag c k hth
      have hreply := h.reply c henv
      simp only [Pool.record,hreply]
      exact ⟨rfl,rfl,h.keeps c henv⟩
    · exact ⟨rfl,rfl,henv⟩

theorem Simulates.run (h : Simulates e e' rel)
    (hwork : ∀ {w w'}, rel w w' → rel (work w) (work' w')) (body : κ → Prog C R α)
    (moves : List (Move κ)) (hp : Pool.Alike rel p p') :
    Pool.Alike rel (p.run e body work moves) (p'.run e' body work' moves) := by
  induction moves generalizing p p' with
  | nil => exact hp
  | cons m ms ih => exact ih (h.step hwork body m hp)

/-- Where a call or a step of the surroundings ends in a state that has related ones, each
of these can be reached from a related state, by the same call or by at most one step. -/
structure Foretells (P : C → Prop) (e : Env C R ω) (work : ω → ω) (e' : Env C R ω')
    (work' : ω' → ω') (rel : ω → ω' → Prop) : Prop where
  call : ∀ {c w after}, P c → rel (e c w).2 after → ∃ w', rel w w' ∧ e' c w' = ((e c w).1,after)
  work : ∀ {w after}, rel (work w) after → ∃ w', rel w w' ∧ (after = work' w' ∨ after = w')

/-- Then every run is, up to steps that change nothing related, one over the other
surroundings, and may end there in any related state. -/
theorem Foretells.run {P : C → Prop} (h : Foretells P e work e' work' rel)
    {body : κ → Prog C R α} (hbody : ∀ tag, (body tag).Meets P fun _ => True)
    (moves : List (Move κ)) {p : Pool C R κ ω α}
    (hp : ∀ th ∈ p.threads, th.prog.Meets P fun _ => True) {last : ω'}
    (hlast : rel (p.run e body work moves).env last) :
    ∃ w' moves', moves'.Sublist moves ∧ rel p.env w' ∧
      Pool.run e' body work' ⟨p.threads,w',p.log⟩ moves' =
        ⟨(p.run e body work moves).threads,last,(p.run e body work moves).log⟩ := by
  induction moves generalizing p with
  | nil => exact ⟨last,[],List.Sublist.refl _,hlast,rfl⟩
  | cons m ms ih =>
    cases m with
    | start tag =>
      have hnext : ∀ th ∈ (p.spawn ⟨tag,body tag⟩).threads, th.prog.Meets P fun _ => True :=
        List.forall_mem_append.mpr ⟨hp,List.forall_mem_singleton.mpr (hbody tag)⟩
      obtain ⟨w',moves',hsub,hw,hrun⟩ := ih hnext hlast
      exact ⟨w',.start tag :: moves',hsub.cons_cons _,hw,hrun⟩
    | work =>
      obtain ⟨after,moves',hsub,hafter,hrun⟩ := ih (p := { p with env := work p.env }) hp hlast
      obtain ⟨w',hw,rfl | rfl⟩ := h.work hafter
      · exact ⟨w',.work :: moves',hsub.cons_cons _,hw,hrun⟩
      · exact ⟨after,moves',hsub.cons _,hw,hrun⟩
    | call i =>
      have hrest : (p.run e body work (.call i :: ms)) =
        (p.step e body work (.call i)).run e body work ms := rfl
      generalize hnext : p.step e body work (.call i) = next at hrest
      have hspec := hnext ▸ p.step_spec e body work (.call i)
      rw [hrest] at hlast ⊢
      cases hspec with
      | idle =>
        obtain ⟨w',moves',hsub,hw,hrun⟩ := ih hp hlast
        exact ⟨w',moves',hsub.cons _,hw,hrun⟩
      | @call _ tag c k hth =>
        have hmeets := hp _ (List.mem_of_getElem? hth)
        have hthreads : ∀ th ∈ p.threads.set i ⟨tag,k (e c p.env).1⟩,
            th.prog.Meets P fun _ => True := by
          intro th hmem
          rcases List.mem_or_eq_of_mem_set hmem with hold | rfl
          · exact hp th hold
          · exact hmeets.2 _
        obtain ⟨after,moves',hsub,hafter,hrun⟩ := ih hthreads hlast
        obtain ⟨w',hw,hcall⟩ := h.call hmeets.1 hafter
        refine ⟨w',.call i :: moves',hsub.cons_cons _,hw,?_⟩
        rw [← hrun]
        simp only [Pool.run,List.foldl_cons,Pool.step,hth,hcall,Pool.record]

end

end Interaction
