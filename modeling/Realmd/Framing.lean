import Mathlib.Data.List.Basic
set_option autoImplicit false

namespace Framing

inductive Decision where
  | incomplete : Decision
  | complete : Nat → Decision
  | reject : Decision
  deriving DecidableEq, Repr

/-- A consumer of a stream of `β`: it inspects the unread part, handles one
complete frame at a time and leaves one log entry for it. -/
structure Machine (β X H : Type) where
  isOpen : X → Bool
  inspect : X → List β → Decision
  handle : X → List β → H × X
  refuse : X → X

/-- A decision on a prefix of the stream is final, a complete frame is a
non-empty part of what was inspected, and a refused stream is closed. -/
structure Machine.Stable {β X H : Type} (m : Machine β X H) : Prop where
  complete_append : ∀ {x p n} (q : List β),
    m.inspect x p = .complete n → m.inspect x (p ++ q) = .complete n
  reject_append : ∀ {x p} (q : List β),
    m.inspect x p = .reject → m.inspect x (p ++ q) = .reject
  complete_bounds : ∀ {x p n}, m.inspect x p = .complete n → 1 ≤ n ∧ n ≤ p.length
  refuse_closed : ∀ x, m.isOpen (m.refuse x) = false

structure Drained (β X H : Type) where
  log : List H
  state : X
  pending : List β

variable {β X H : Type}

def Drained.after (d : Drained β X H) (earlier : List H) : Drained β X H :=
  ⟨earlier ++ d.log,d.state,d.pending⟩

@[simp] theorem Drained.after_state (d : Drained β X H) (earlier : List H) :
    (d.after earlier).state = d.state := rfl

@[simp] theorem Drained.after_pending (d : Drained β X H) (earlier : List H) :
    (d.after earlier).pending = d.pending := rfl

def Machine.drainFuel (m : Machine β X H) : Nat → X → List β → Drained β X H
  | 0, x, p => ⟨[],x,p⟩
  | fuel+1, x, p =>
      if m.isOpen x then
        match m.inspect x p with
        | .incomplete => ⟨[],x,p⟩
        | .reject => ⟨[],m.refuse x,[]⟩
        | .complete n =>
            (m.drainFuel fuel (m.handle x (p.take n)).2 (p.drop n)).after
              [(m.handle x (p.take n)).1]
      else ⟨[],x,p⟩

/-- Handle frames until the stream is closed or its unread part is incomplete. -/
def Machine.drain (m : Machine β X H) (x : X) (p : List β) : Drained β X H :=
  m.drainFuel (p.length+1) x p

theorem Machine.Stable.drop_length {m : Machine β X H} (hm : m.Stable) {x : X}
    {p : List β} {n : Nat} (h : m.inspect x p = .complete n) :
    (p.drop n).length < p.length := by
  have hb := hm.complete_bounds h
  simp only [List.length_drop]
  omega

theorem Machine.Stable.drainFuel_congr {m : Machine β X H} (hm : m.Stable)
    (f g : Nat) (x : X) (p : List β) (hf : p.length < f) (hg : p.length < g) :
    m.drainFuel f x p = m.drainFuel g x p := by
  induction f generalizing g x p with
  | zero => omega
  | succ f ih =>
    cases g with
    | zero => omega
    | succ g =>
      cases ho : m.isOpen x with
      | false => simp [drainFuel,ho]
      | true =>
        cases hd : m.inspect x p with
        | incomplete => simp [drainFuel,ho,hd]
        | reject => simp [drainFuel,ho,hd]
        | complete n =>
          have hl := hm.drop_length hd
          simp only [drainFuel,ho,hd,if_true]
          rw [ih g (m.handle x (p.take n)).2 (p.drop n) (by omega) (by omega)]

theorem Machine.drain_closed (m : Machine β X H) {x : X} (p : List β)
    (ho : m.isOpen x = false) : m.drain x p = ⟨[],x,p⟩ := by
  simp [drain,drainFuel,ho]

theorem Machine.drain_incomplete (m : Machine β X H) {x : X} {p : List β}
    (hd : m.inspect x p = .incomplete) : m.drain x p = ⟨[],x,p⟩ := by
  cases ho : m.isOpen x <;> simp [drain,drainFuel,ho,hd]

theorem Machine.drain_reject (m : Machine β X H) {x : X} {p : List β}
    (ho : m.isOpen x = true) (hd : m.inspect x p = .reject) :
    m.drain x p = ⟨[],m.refuse x,[]⟩ := by
  simp [drain,drainFuel,ho,hd]

theorem Machine.Stable.drain_complete {m : Machine β X H} (hm : m.Stable) {x : X}
    {p : List β} {n : Nat} (ho : m.isOpen x = true) (hd : m.inspect x p = .complete n) :
    m.drain x p = (m.drain (m.handle x (p.take n)).2 (p.drop n)).after
      [(m.handle x (p.take n)).1] := by
  have hl := hm.drop_length hd
  have hf := hm.drainFuel_congr p.length ((p.drop n).length+1)
    (m.handle x (p.take n)).2 (p.drop n) hl (by omega)
  conv => lhs; unfold drain
  simp only [drainFuel,ho,hd,if_true,hf]
  rfl

/-- Two ways of consuming a stream agree: same log, same state, and the same
unread part unless the stream was closed. -/
structure Machine.Agree (m : Machine β X H) (a b : Drained β X H) : Prop where
  log : a.log = b.log
  state : a.state = b.state
  pending : m.isOpen a.state = true → a.pending = b.pending

theorem Machine.Agree.refl {m : Machine β X H} (a : Drained β X H) : m.Agree a a :=
  ⟨rfl,rfl,fun _ => rfl⟩

theorem Machine.Agree.symm {m : Machine β X H} {a b : Drained β X H}
    (h : m.Agree a b) : m.Agree b a :=
  ⟨h.log.symm,h.state.symm,fun ho => (h.pending (h.state ▸ ho)).symm⟩

theorem Machine.Agree.trans {m : Machine β X H} {a b c : Drained β X H}
    (h : m.Agree a b) (h' : m.Agree b c) : m.Agree a c :=
  ⟨h.log.trans h'.log,h.state.trans h'.state,
    fun ho => (h.pending ho).trans (h'.pending (h.state ▸ ho))⟩

theorem Machine.Agree.after {m : Machine β X H} {a b : Drained β X H}
    (h : m.Agree a b) (l : List H) : m.Agree (a.after l) (b.after l) :=
  ⟨congrArg (l ++ ·) h.log,h.state,h.pending⟩

def Machine.feed (m : Machine β X H) (d : Drained β X H) (q : List β) : Drained β X H :=
  if m.isOpen d.state then (m.drain d.state (d.pending ++ q)).after d.log else d

theorem Machine.feed_closed (m : Machine β X H) {d : Drained β X H} (q : List β)
    (ho : m.isOpen d.state = false) : m.feed d q = d := by
  simp [feed,ho]

theorem Machine.feed_open (m : Machine β X H) {d : Drained β X H} (q : List β)
    (ho : m.isOpen d.state = true) :
    m.feed d q = (m.drain d.state (d.pending ++ q)).after d.log := by
  simp [feed,ho]

theorem Machine.feed_after (m : Machine β X H) (d : Drained β X H) (l : List H)
    (q : List β) : m.feed (d.after l) q = (m.feed d q).after l := by
  unfold feed
  cases ho : m.isOpen d.state with
  | false => simp [ho]
  | true => simp [ho,Drained.after]

theorem Machine.Stable.drain_append {m : Machine β X H} (hm : m.Stable) (x : X)
    (p q : List β) : m.Agree (m.drain x (p ++ q)) (m.feed (m.drain x p) q) := by
  induction hk : p.length using Nat.strongRecOn generalizing x p with
  | ind k ih =>
    cases ho : m.isOpen x with
    | false =>
      rw [m.drain_closed p ho,m.drain_closed (p ++ q) ho,m.feed_closed q ho]
      exact ⟨rfl,rfl,fun h => by simp [ho] at h⟩
    | true =>
      cases hd : m.inspect x p with
      | incomplete =>
        rw [m.drain_incomplete hd,m.feed_open q ho]
        exact ⟨rfl,rfl,fun _ => rfl⟩
      | reject =>
        rw [m.drain_reject ho hd,m.drain_reject ho (hm.reject_append q hd),
          m.feed_closed q (hm.refuse_closed x)]
        exact .refl _
      | complete n =>
        have hb := hm.complete_bounds hd
        have ht : (p ++ q).take n = p.take n := List.take_append_of_le_length hb.2
        have hr : (p ++ q).drop n = p.drop n ++ q := List.drop_append_of_le_length hb.2
        have hs := ih (p.drop n).length (by simp only [List.length_drop]; omega)
          (m.handle x (p.take n)).2 (p.drop n) rfl
        rw [hm.drain_complete ho (hm.complete_append q hd),ht,hr,hm.drain_complete ho hd,
          m.feed_after]
        exact hs.after _

/-- Nothing further can be handled before more input arrives. -/
def Machine.Settled (m : Machine β X H) (d : Drained β X H) : Prop :=
  m.isOpen d.state = true → m.inspect d.state d.pending = .incomplete

theorem Machine.Stable.drain_settled {m : Machine β X H} (hm : m.Stable) (x : X)
    (p : List β) : m.Settled (m.drain x p) := by
  induction hk : p.length using Nat.strongRecOn generalizing x p with
  | ind k ih =>
    intro hopen
    cases ho : m.isOpen x with
    | false => simp [m.drain_closed p ho,ho] at hopen
    | true =>
      cases hd : m.inspect x p with
      | incomplete => simpa [m.drain_incomplete hd] using hd
      | reject =>
        rw [m.drain_reject ho hd,hm.refuse_closed x] at hopen
        contradiction
      | complete n =>
        have hb := hm.complete_bounds hd
        rw [hm.drain_complete ho hd] at hopen ⊢
        exact ih (p.drop n).length (by simp only [List.length_drop]; omega)
          (m.handle x (p.take n)).2 (p.drop n) rfl hopen

theorem Machine.Stable.feed_feed {m : Machine β X H} (hm : m.Stable)
    (d : Drained β X H) (q r : List β) :
    m.Agree (m.feed (m.feed d q) r) (m.feed d (q ++ r)) := by
  cases ho : m.isOpen d.state with
  | false =>
    simp only [m.feed_closed _ ho]
    exact .refl d
  | true =>
    have happ := (hm.drain_append d.state (d.pending ++ q) r).symm
    rw [m.feed_open q ho,m.feed_open (q ++ r) ho,← List.append_assoc,m.feed_after]
    exact happ.after d.log

theorem Machine.Stable.feed_settled {m : Machine β X H} (hm : m.Stable)
    {d : Drained β X H} (hd : m.Settled d) (q : List β) : m.Settled (m.feed d q) := by
  cases ho : m.isOpen d.state with
  | false =>
    rw [m.feed_closed q ho]
    exact hd
  | true =>
    rw [m.feed_open q ho]
    exact hm.drain_settled d.state (d.pending ++ q)

theorem Machine.feed_nil {m : Machine β X H} {d : Drained β X H} (hd : m.Settled d) :
    m.feed d [] = d := by
  cases ho : m.isOpen d.state with
  | false => exact m.feed_closed [] ho
  | true => simp [m.feed_open [] ho,m.drain_incomplete (hd ho),Drained.after]

theorem Machine.Stable.foldl_feed {m : Machine β X H} (hm : m.Stable)
    (chunks : List (List β)) (d : Drained β X H) (hd : m.Settled d) :
    m.Agree (chunks.foldl m.feed d) (m.feed d chunks.flatten) := by
  induction chunks generalizing d with
  | nil =>
    simp only [List.foldl_nil,List.flatten_nil,Machine.feed_nil hd]
    exact .refl d
  | cons c cs ih =>
    exact (ih (m.feed d c) (hm.feed_settled hd c)).trans (hm.feed_feed d c cs.flatten)

theorem Machine.Agree.feed {m : Machine β X H} {a b : Drained β X H} (h : m.Agree a b)
    (q : List β) : m.Agree (m.feed a q) (m.feed b q) := by
  cases ho : m.isOpen a.state with
  | false =>
    rw [m.feed_closed q ho,m.feed_closed q (h.state ▸ ho)]
    exact h
  | true =>
    rw [m.feed_open q ho,m.feed_open q (h.state ▸ ho),h.log,h.pending ho,h.state]
    exact .refl _

theorem Machine.Agree.foldl_feed {m : Machine β X H} {a b : Drained β X H}
    (h : m.Agree a b) (chunks : List (List β)) :
    m.Agree (chunks.foldl m.feed a) (chunks.foldl m.feed b) := by
  induction chunks generalizing a b with
  | nil => exact h
  | cons c cs ih => exact ih (h.feed c)

/-- Any two ways of cutting the same input into chunks agree. -/
theorem Machine.Stable.chunking_irrelevant {m : Machine β X H} (hm : m.Stable)
    {d : Drained β X H} (hd : m.Settled d) {cs cs' : List (List β)}
    (h : cs.flatten = cs'.flatten) :
    m.Agree (cs.foldl m.feed d) (cs'.foldl m.feed d) := by
  have h₁ := hm.foldl_feed cs d hd
  have h₂ := hm.foldl_feed cs' d hd
  rw [h] at h₁
  exact h₁.trans h₂.symm

end Framing
