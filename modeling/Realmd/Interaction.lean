import Mathlib.Data.List.Basic
set_option autoImplicit false

namespace Interaction

/-- A program that talks to its surroundings: every call names its reply type,
and the rest of the program depends on the reply. -/
inductive Prog (C : Type) (R : C → Type) (α : Type) where
  | ret : α → Prog C R α
  | ask : (c : C) → (R c → Prog C R α) → Prog C R α

structure Event (C : Type) (R : C → Type) where
  call : C
  reply : R call

instance {C : Type} {R : C → Type} [DecidableEq C] [(c : C) → DecidableEq (R c)] :
    DecidableEq (Event C R)
  | ⟨c,r⟩, ⟨c',r'⟩ =>
      if h : c = c' then decidable_of_iff (h ▸ r = r') (by subst h; simp)
      else .isFalse fun heq => h (congrArg Event.call heq)

/-- Surroundings with a private state `ω`, which every call may change. -/
abbrev Env (C : Type) (R : C → Type) (ω : Type) := (c : C) → ω → R c × ω

variable {C : Type} {R : C → Type} {α β γ ω : Type}

def Prog.bind : Prog C R α → (α → Prog C R β) → Prog C R β
  | .ret a, f => f a
  | .ask c k, f => .ask c fun r => (k r).bind f

instance : Monad (Prog C R) where
  pure := .ret
  bind := Prog.bind

def call (c : C) : Prog C R (R c) := .ask c .ret

@[simp] theorem Prog.pure_eq (a : α) : (pure a : Prog C R α) = .ret a := rfl

@[simp] theorem Prog.ask_bind (c : C) (k : R c → Prog C R α) (f : α → Prog C R β) :
    (Prog.ask c k >>= f) = .ask c fun r => k r >>= f := rfl

/-- The calls of one execution with their replies, and its result. -/
def Prog.Runs : Prog C R α → List (Event C R) → α → Prop
  | .ret a, t, b => t = [] ∧ a = b
  | .ask c k, t, b => ∃ r t', t = ⟨c,r⟩ :: t' ∧ (k r).Runs t' b

theorem Prog.runs_bind {p : Prog C R α} {f : α → Prog C R β} {t : List (Event C R)}
    {b : β} : (p >>= f).Runs t b ↔
      ∃ t₁ t₂ a, t = t₁ ++ t₂ ∧ p.Runs t₁ a ∧ (f a).Runs t₂ b := by
  induction p generalizing t with
  | ret a =>
    constructor
    · intro h
      exact ⟨[],t,a,rfl,⟨rfl,rfl⟩,h⟩
    · rintro ⟨t₁,t₂,a',rfl,⟨rfl,rfl⟩,h⟩
      exact h
  | ask c k ih =>
    constructor
    · rintro ⟨r,t',rfl,h⟩
      obtain ⟨t₁,t₂,a,rfl,h₁,h₂⟩ := (ih r).mp h
      exact ⟨⟨c,r⟩ :: t₁,t₂,a,rfl,⟨r,t₁,rfl,h₁⟩,h₂⟩
    · rintro ⟨t₁,t₂,a,rfl,⟨r,t',rfl,h₁⟩,h₂⟩
      exact ⟨r,t' ++ t₂,rfl,(ih r).mpr ⟨t',t₂,a,rfl,h₁,h₂⟩⟩

structure Outcome (C : Type) (R : C → Type) (ω α : Type) where
  value : α
  calls : List (Event C R)
  env : ω

def Prog.exec (e : Env C R ω) : Prog C R α → ω → Outcome C R ω α
  | .ret a, w => ⟨a,[],w⟩
  | .ask c k, w =>
      let next := (k (e c w).1).exec e (e c w).2
      ⟨next.value,⟨c,(e c w).1⟩ :: next.calls,next.env⟩

@[simp] theorem Prog.exec_ret (e : Env C R ω) (a : α) (w : ω) :
    (Prog.ret a).exec e w = ⟨a,[],w⟩ := rfl

theorem Prog.exec_runs (e : Env C R ω) (p : Prog C R α) (w : ω) :
    p.Runs (p.exec e w).calls (p.exec e w).value := by
  induction p generalizing w with
  | ret a => exact ⟨rfl,rfl⟩
  | ask c k ih => exact ⟨_,_,rfl,ih _ _⟩

theorem Prog.exec_bind (e : Env C R ω) (p : Prog C R α) (f : α → Prog C R β) (w : ω) :
    (p >>= f).exec e w =
      ⟨((f (p.exec e w).value).exec e (p.exec e w).env).value,
        (p.exec e w).calls ++ ((f (p.exec e w).value).exec e (p.exec e w).env).calls,
        ((f (p.exec e w).value).exec e (p.exec e w).env).env⟩ := by
  induction p generalizing w with
  | ret a => rfl
  | ask c k ih =>
    rw [ask_bind]
    simp only [exec,ih,List.cons_append]

def Prog.instants (e : Env C R ω) : Prog C R α → ω → List ω
  | .ret _, w => [w]
  | .ask c k, w => w :: (k (e c w).1).instants e (e c w).2

theorem Prog.start_mem_instants (e : Env C R ω) (p : Prog C R α) (w : ω) :
    w ∈ p.instants e w := by
  cases p <;> simp [instants]

theorem Prog.exec_answered (e : Env C R ω) (p : Prog C R α) (w : ω) {c : C} {r : R c}
    (h : (⟨c,r⟩ : Event C R) ∈ (p.exec e w).calls) :
    ∃ w' ∈ p.instants e w, (e c w').1 = r := by
  induction p generalizing w with
  | ret a => simp at h
  | ask c' k ih =>
    rcases List.mem_cons.mp h with heq | htail
    · cases heq
      exact ⟨w,by simp [instants],rfl⟩
    · obtain ⟨w',hmem,hr⟩ := ih _ _ htail
      exact ⟨w',List.mem_cons_of_mem _ hmem,hr⟩

/-- Every call of a program satisfies `P` and every result `Q`, whatever the replies. -/
def Prog.Meets (P : C → Prop) (Q : α → Prop) : Prog C R α → Prop
  | .ret a => Q a
  | .ask c k => P c ∧ ∀ r, (k r).Meets P Q

theorem Prog.Meets.bind {P : C → Prop} {Q : α → Prop} {Q' : β → Prop} {p : Prog C R α}
    {f : α → Prog C R β} (h : p.Meets P Q) (hf : ∀ a, Q a → (f a).Meets P Q') :
    (p >>= f).Meets P Q' := by
  induction p with
  | ret a => exact hf a h
  | ask c k ih => exact ⟨h.1,fun r => ih r (h.2 r)⟩

theorem Prog.Meets.mono {P P' : C → Prop} {Q Q' : α → Prop} {p : Prog C R α}
    (h : p.Meets P Q) (hP : ∀ c, P c → P' c) (hQ : ∀ a, Q a → Q' a) : p.Meets P' Q' := by
  induction p with
  | ret a => exact hQ a h
  | ask c k ih => exact ⟨hP c h.1,fun r => ih r (h.2 r)⟩

theorem Prog.Meets.weaken {P : C → Prop} {Q : α → Prop} {p : Prog C R α} (h : p.Meets P Q) :
    p.Meets P fun _ => True :=
  h.mono (fun _ => id) fun _ _ => trivial

theorem Prog.Meets.runs {P : C → Prop} {Q : α → Prop} {p : Prog C R α} (hp : p.Meets P Q)
    {t : List (Event C R)} {a : α} (h : p.Runs t a) : (∀ ev ∈ t, P ev.call) ∧ Q a := by
  induction p generalizing t with
  | ret b =>
    obtain ⟨rfl,rfl⟩ := h
    exact ⟨by simp,hp⟩
  | ask c k ih =>
    obtain ⟨r,t',rfl,h⟩ := h
    obtain ⟨hcalls,hq⟩ := ih r (hp.2 r) h
    refine ⟨?_,hq⟩
    intro ev hmem
    rcases List.mem_cons.mp hmem with rfl | htail
    · exact hp.1
    · exact hcalls ev htail

variable {D : Type} {S : D → Type} {σ ω' : Type}

/-- Surroundings whose calls are carried out by programs with a state of their own. -/
def Env.serve (e : Env D S ω) (f : (c : C) → σ → Prog D S (R c × σ)) : Env C R (σ × ω)
  | c, (s,w) =>
      let out := (f c s).exec e w
      (out.value.1,(out.value.2,out.env))

def Env.taped [∀ c, Inhabited (R c)] (e : Env C R ω) : Env C R (List ω)
  | _, [] => (default,[])
  | c, w :: tape => ((e c w).1,tape)

/-- From related states every call gets one and the same reply, and leaves related
states. -/
structure Simulates (e : Env C R ω) (e' : Env C R ω') (rel : ω → ω' → Prop) : Prop where
  reply : ∀ {w w'} c, rel w w' → (e c w).1 = (e' c w').1
  keeps : ∀ {w w'} c, rel w w' → rel (e c w).2 (e' c w').2

variable {e : Env C R ω} {e' : Env C R ω'} {rel : ω → ω' → Prop} {w : ω} {w' : ω'}

theorem Simulates.exec (h : Simulates e e' rel) (p : Prog C R α) (hw : rel w w') :
    (p.exec e w).value = (p.exec e' w').value ∧ (p.exec e w).calls = (p.exec e' w').calls ∧
      rel (p.exec e w).env (p.exec e' w').env := by
  induction p generalizing w w' with
  | ret a => exact ⟨rfl,rfl,hw⟩
  | ask c k ih =>
    have hreply := h.reply c hw
    obtain ⟨hvalue,hcalls,henv⟩ := ih (e c w).1 (h.keeps c hw)
    rw [hreply] at hvalue hcalls henv
    simp only [Prog.exec,hreply]
    exact ⟨hvalue,by rw [hcalls],henv⟩

def callAll : List C → Prog C R Unit
  | [] => .ret ()
  | c :: cs => .ask c fun _ => callAll cs

end Interaction
