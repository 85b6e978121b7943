import Realmd.RealmListDecode
import Realmd.RefreshGate
set_option autoImplicit false

namespace Realmd
open ByteCodec Interaction

/-- What the sessions that list realms ask for: a step of the realm list, or anything else
a handler asks. -/
inductive ListCall where
  | realm (c : RealmCall)
  | auth (c : Call)

abbrev ListReply : ListCall → Type
  | .realm c => RealmReply c
  | .auth c => Reply c

abbrev ListProg := Prog ListCall ListReply
abbrev ListEvent := Event ListCall ListReply

instance : (c : RealmCall) → Inhabited (RealmReply c)
  | .time => inferInstanceAs (Inhabited Int)
  | .tryLock | .due _ => inferInstanceAs (Inhabited Bool)
  | .setNextUpdate _ | .unlock | .reset .. | .publish _ => inferInstanceAs (Inhabited Unit)
  | .query => ⟨RealmResult.failed⟩
  | .getaddrinfo _ => inferInstanceAs (Inhabited (Option UInt32))
  | .load => ⟨RealmSnapshot.empty⟩

instance : (c : ListCall) → Inhabited (ListReply c)
  | .realm c => inferInstanceAs (Inhabited (RealmReply c))
  | .auth c => inferInstanceAs (Inhabited (Reply c))

def realmStep (c : RealmCall) : ListProg (RealmReply c) := .ask (.realm c) .ret

section
variable (lib : RealmLibrary)

def perform : (c : Call) → ListProg (Reply c)
  | .updateRealmsIfNeed => do
      let _ ← (updateIfNeed lib).expand realmStep
      return ()
  | .getRealmsForBuild build => (getRealmsForBuild build).expand realmStep
  | c => .ask (.auth c) .ret

/-- A session that asks for the realm list again and again, as long as it is answered. -/
def serveRealmLists : Nat → Session → AuthProg (Bool × Session)
  | 0, s => .ret (true,s)
  | n+1, s => do
      let (ok,s) ← realmList lib.toSharedLibrary s
      if ok then serveRealmLists n s else return (false,s)

def sessionBody (tag : Nat × Session) : ListProg (Bool × Session) :=
  (serveRealmLists lib tag.1 tag.2).expand (perform lib)

end

def listEnv {δ : Type} (outside : Env ListCall ListReply δ) :
    Env ListCall ListReply (RealmList × δ)
  | .realm c, w => realmEnv (fun c d => outside (.realm c) d) c w
  | .auth c, (realms,d) => ((outside (.auth c) d).1,(realms,(outside (.auth c) d).2))

abbrev ListPool (δ : Type) :=
  Pool ListCall ListReply (Nat × Session) (RealmList × δ) (Bool × Session)

def realmLog (log : List (Nat × ListEvent)) : List RealmEntry :=
  log.filterMap fun entry =>
    match entry with
    | (i,⟨.realm c,reply⟩) => some (i,⟨c,reply⟩)
    | (_,⟨.auth _,_⟩) => none

section
variable {lib : RealmLibrary} {δ : Type}

def ListAllowed (lib : RealmLibrary) (phase : Option GatePhase) : ListCall → Prop
  | .realm c => Allowed lib phase c
  | .auth _ => True

def listNext (phase : Option GatePhase) : ListEvent → Option GatePhase
  | ⟨.realm c,reply⟩ => GatePhase.next phase ⟨c,reply⟩
  | ⟨.auth _,_⟩ => phase

theorem buildSnapshot_meets :
    (buildSnapshot lib).Meets (Building · = true) fun _ => True := by
  refine ⟨rfl,fun result => (buildRows_meets _ _).mono ?_ fun _ => id⟩
  rintro _ ⟨host,rfl⟩
  rfl

theorem building_follows {α : Type} {p : RealmProg α} {Q : α → Prop}
    (hp : p.Meets (Building · = true) Q) (now : Int) (build : List RealmEvent) :
    (p.expand realmStep).Follows (ListAllowed lib) listNext
      (fun phase a => ∃ t, p.Runs t a ∧ phase = some (.refreshing now (build ++ t)))
      (some (.refreshing now build)) := by
  induction p generalizing build with
  | ret a => exact ⟨[],⟨rfl,rfl⟩,by rw [List.append_nil]⟩
  | ask c k ih =>
    have hnext : ∀ r : RealmReply c, listNext (some (.refreshing now build)) ⟨.realm c,r⟩ =
        some (.refreshing now (build ++ [⟨c,r⟩])) := by
      intro r
      cases c <;> first | rfl | cases hp.1
    refine ⟨?_,fun r => ?_⟩
    · cases c <;> first | trivial | cases hp.1
    · have hrest := ih r (hp.2 r) (build ++ [⟨c,r⟩])
      rw [← hnext r] at hrest
      refine hrest.mono ?_
      rintro phase a ⟨t,ht,rfl⟩
      exact ⟨⟨c,r⟩ :: t,⟨r,t,rfl,ht⟩,by rw [List.append_assoc]; rfl⟩

theorem refreshSnapshot_follows (now : Int) :
    ((refreshSnapshot lib).expand realmStep).Follows (ListAllowed lib) listNext
      (fun phase _ => phase = some .leaving) (some (.refreshing now [])) := by
  unfold refreshSnapshot
  rw [Prog.expand_bind]
  refine (building_follows buildSnapshot_meets now []).bind ?_
  rintro _ snapshot ⟨t,ht,rfl⟩
  exact ⟨ht,fun _ => rfl⟩

theorem updateIfNeed_follows :
    ((updateIfNeed lib).expand realmStep).Follows (ListAllowed lib) listNext
      (fun phase _ => phase = none) none := by
  refine ⟨trivial,fun now => ⟨trivial,fun locked => ?_⟩⟩
  cases locked with
  | false => rfl
  | true =>
    refine ⟨trivial,fun isDue => ?_⟩
    cases isDue with
    | false => exact ⟨trivial,fun _ => rfl⟩
    | true =>
      refine ⟨rfl,fun _ => ?_⟩
      have hrest : ((do
          refreshSnapshot lib
          let _ ← realmAsk .unlock
          return true : RealmProg Bool).expand realmStep).Follows (ListAllowed lib) listNext
            (fun phase _ => phase = none) (some (.refreshing now [])) := by
        rw [Prog.expand_bind]
        refine (refreshSnapshot_follows now).bind ?_
        rintro _ _ rfl
        exact ⟨trivial,fun _ => rfl⟩
      exact hrest

theorem perform_follows (c : Call) :
    (perform lib c).Follows (ListAllowed lib) listNext (fun phase _ => phase = none) none := by
  cases c
  case updateRealmsIfNeed =>
    refine updateIfNeed_follows.bind ?_
    rintro _ _ rfl
    rfl
  case getRealmsForBuild build => exact ⟨trivial,fun _ => rfl⟩
  all_goals exact ⟨trivial,fun _ => rfl⟩

theorem sessionBody_follows (tag : Nat × Session) :
    (sessionBody lib tag).Follows (ListAllowed lib) listNext (fun phase _ => phase = none)
      none :=
  Prog.Follows.expand perform_follows _

/-- Every session follows the gate's protocol, and the log is a path of the gate. -/
structure Serial (lib : RealmLibrary) (interval : UInt32) (first : Gate) (p : ListPool δ)
    (g : Gate) : Prop where
  path : Path (GateStep lib interval) first (realmLog p.log) g
  agrees : g.Agrees interval p.env.1
  follows : ∀ (i : Nat) (th : Thread ListCall ListReply (Nat × Session) (Bool × Session)),
    p.threads[i]? = some th →
    th.prog.Follows (ListAllowed lib) listNext (fun phase _ => phase = none) (g.phase i)
  known : ∀ i phase, g.phase i = some phase → i < p.threads.length

theorem realmLog_append (l l' : List (Nat × ListEvent)) :
    realmLog (l ++ l') = realmLog l ++ realmLog l' := by
  simp [realmLog]

variable {interval : UInt32} {first : Gate} {outside : Env ListCall ListReply δ}

theorem listEnv_refines {w : RealmList × δ} {g : Gate} {i : Nat} {c : ListCall}
    (hagrees : g.Agrees interval w.1) (hok : ListAllowed lib (g.phase i) c)
    {log : List (Nat × ListEvent)}
    (hpath : Path (GateStep lib interval) first (realmLog log) g) :
    ∃ g', Path (GateStep lib interval) first
        (realmLog (log ++ [(i,⟨c,(listEnv outside c w).1⟩)])) g' ∧
      g'.Agrees interval (listEnv outside c w).2.1 ∧
      g'.phase i = listNext (g.phase i) ⟨c,(listEnv outside c w).1⟩ ∧
      ∀ j, j ≠ i → g'.phase j = g.phase j := by
  rw [realmLog_append]
  cases c with
  | realm c =>
    obtain ⟨g',hstep,hagrees',hself,hother⟩ : ∃ g', GateStep lib interval g
        (i,⟨c,(realmEnv (fun c d => outside (.realm c) d) c w).1⟩) g' ∧ _ :=
      realmEnv_refines hagrees hok
    exact ⟨g',hpath.snoc hstep,hagrees',hself,hother⟩
  | auth c =>
    refine ⟨g,?_,hagrees,rfl,fun _ _ => rfl⟩
    change Path _ _ (realmLog log ++ []) g
    rwa [List.append_nil]

theorem Serial.step {p : ListPool δ} {g : Gate} (h : Serial lib interval first p g)
    (work : δ → δ) (m : Move (Nat × Session)) :
    ∃ g', Serial lib interval first
      (p.step (listEnv outside) (sessionBody lib) (fun w => (w.1,work w.2)) m) g' := by
  generalize hp' : p.step (listEnv outside) (sessionBody lib) (fun w => (w.1,work w.2)) m = p'
  have hspec := hp' ▸ p.step_spec (listEnv outside) (sessionBody lib)
    (fun w => (w.1,work w.2)) m
  cases hspec with
  | start tag =>
    refine ⟨g,h.path,h.agrees,?_,?_⟩
    · intro i th hth
      rcases Pool.spawn_cases hth with hold | ⟨rfl,rfl⟩
      · exact h.follows i th hold
      · have hnone : g.phase p.threads.length = none := by
          cases hphase : g.phase p.threads.length with
          | none => rfl
          | some phase => exact absurd (h.known _ _ hphase) (lt_irrefl _)
        rw [hnone]
        exact sessionBody_follows tag
    · intro i phase hphase
      have hlt := h.known i phase hphase
      simp only [Pool.spawn,List.length_append]
      omega
  | @call i tag c k hth =>
    have hi : i < p.threads.length := (List.getElem?_eq_some_iff.mp hth).1
    obtain ⟨hok,hrest⟩ := h.follows i _ hth
    obtain ⟨g',hpath,hagrees,hself,hother⟩ := listEnv_refines h.agrees hok h.path
    refine ⟨g',hpath,hagrees,?_,?_⟩
    · intro j th hj
      by_cases hij : i = j
      · subst hij
        rw [Pool.record_self hi] at hj
        obtain rfl := Option.some.inj hj
        rw [hself]
        exact hrest _
      · rw [Pool.record_other hij] at hj
        rw [hother j (Ne.symm hij)]
        exact h.follows j th hj
    · intro j phase hphase
      have hlt : j < p.threads.length := by
        by_cases hij : j = i
        · rw [hij]
          exact hi
        · rw [hother j hij] at hphase
          exact h.known j phase hphase
      simpa [Pool.record] using hlt
  | idle i => exact ⟨g,h⟩
  | work => exact ⟨g,h.path,h.agrees,h.follows,h.known⟩

theorem Serial.run {p : ListPool δ} {g : Gate} (h : Serial lib interval first p g)
    (work : δ → δ) (moves : List (Move (Nat × Session))) :
    ∃ g', Serial lib interval first
      (p.run (listEnv outside) (sessionBody lib) (fun w => (w.1,work w.2)) moves) g' := by
  induction moves generalizing p g with
  | nil => exact ⟨g,h⟩
  | cons m moves ih =>
    obtain ⟨g',h'⟩ := h.step work m
    exact ih h'

theorem realmSteps {α : Type} (p : RealmProg α) :
    (p.expand realmStep).Meets (∃ c, · = .realm c) fun _ => True := by
  induction p with
  | ret a => trivial
  | ask c k ih => exact ⟨⟨c,rfl⟩,fun r => ih r⟩

theorem perform_sends {c : Call} {r : Reply c} {v : List ListEvent} {reply : Bytes}
    (h : (perform lib c).Runs v r) (hmem : ⟨.auth (.sender reply),()⟩ ∈ v) :
    (⟨c,r⟩ : AuthEvent) = ⟨.sender reply,()⟩ ∧ v = [⟨.auth (.sender reply),()⟩] := by
  cases c
  case updateRealmsIfNeed =>
    obtain ⟨v₁,v₂,_,rfl,hupdate,rfl,-⟩ :=
      (Prog.runs_bind (p := (updateIfNeed lib).expand realmStep)).mp h
    rw [List.append_nil] at hmem
    obtain ⟨c,hc⟩ := ((realmSteps _).runs hupdate).1 _ hmem
    cases hc
  case getRealmsForBuild build =>
    obtain ⟨c,hc⟩ := ((realmSteps _).runs h).1 _ hmem
    cases hc
  case sender bytes =>
    obtain ⟨r',v',rfl,rfl,rfl⟩ := h
    cases List.mem_singleton.mp hmem
    exact ⟨rfl,rfl⟩
  all_goals
    obtain ⟨r',v',rfl,rfl,rfl⟩ := h
    cases List.mem_singleton.mp hmem

theorem realmList_opens {s : Session} {t t₁ t₂ : List AuthEvent} {r : Bool × Session}
    {reply : Bytes} (h : (realmList lib.toSharedLibrary s).Runs t r)
    (hsplit : t = t₁ ++ ⟨.sender reply,()⟩ :: t₂) :
    ∃ realms, ⟨.getRealmsForBuild s.build.toNat,realms⟩ ∈ t₁ := by
  obtain ⟨found,t₃,rfl,h⟩ := h
  cases found with
  | none =>
    obtain ⟨-,-,-,ht⟩ := Session.close_runs h
    cases t₁ with
    | nil => cases hsplit
    | cons ev t₁ =>
      have hmem : ⟨.sender reply,()⟩ ∈ t₃ := by simp [(List.cons.inj hsplit).2]
      cases ht _ hmem
  | some account =>
    obtain ⟨_,t₄,rfl,realms,t₅,rfl,-⟩ := h
    refine ⟨realms,?_⟩
    rcases t₁ with _ | ⟨a,_ | ⟨b,_ | ⟨c,t₁⟩⟩⟩
    · cases hsplit
    · cases hsplit
    · cases hsplit
    · simp only [List.cons_append,List.cons.injEq] at hsplit
      obtain ⟨-,-,rfl,-⟩ := hsplit
      simp

theorem realmList_answer {s : Session} {t t₁ t₂ : List AuthEvent} {r : Bool × Session}
    {reply : Bytes} (h : (realmList lib.toSharedLibrary s).Runs t r)
    (hsplit : t = t₁ ++ ⟨.sender reply,()⟩ :: t₂) :
    ∃ counts : List (Realm × Option UInt8),
      ⟨.getRealmsForBuild s.build.toNat,counts.map Prod.fst⟩ ∈ t₁ ∧
      reply = realmListReply lib.toSharedLibrary s counts := by
  have hmem : ⟨.sender reply,()⟩ ∈ t := by simp [hsplit]
  obtain ⟨account,counts,-,hasked,-,hreply⟩ := realmList_reply h hmem
  obtain ⟨realms,hrealms⟩ := realmList_opens h hsplit
  have hgiven : (s.build.toNat,realms) ∈ realmsAsked t := by
    rw [hsplit]
    exact List.mem_filterMap.mpr ⟨_,List.mem_append_left _ hrealms,rfl⟩
  rw [hasked,List.mem_singleton] at hgiven
  obtain rfl : realms = counts.map Prod.fst := (Prod.mk.inj hgiven).2
  exact ⟨counts,hrealms,hreply⟩

theorem serveRealmLists_answer {n : Nat} {s : Session} {t t₁ t₂ : List AuthEvent}
    {r : Bool × Session} {reply : Bytes} (h : (serveRealmLists lib n s).Runs t r)
    (hsplit : t = t₁ ++ ⟨.sender reply,()⟩ :: t₂) :
    ∃ (s' : Session) (counts : List (Realm × Option UInt8)), s.Quiet s' ∧
      ⟨.getRealmsForBuild s'.build.toNat,counts.map Prod.fst⟩ ∈ t₁ ∧
      reply = realmListReply lib.toSharedLibrary s' counts := by
  induction n generalizing s t t₁ with
  | zero =>
    obtain ⟨rfl,-⟩ := h
    simp at hsplit
  | succ n ih =>
    obtain ⟨a,b,⟨ok,s₁⟩,rfl,hlist,hrest⟩ := Prog.runs_bind.mp h
    obtain ⟨hq,-,-⟩ := realmList_runs hlist
    rcases append_split hsplit with ⟨x,hx⟩ | ⟨x,rfl,hx⟩
    · obtain ⟨counts,hmem,hreply⟩ := realmList_answer hlist hx
      exact ⟨s,counts,.refl s,hmem,hreply⟩
    · cases ok with
      | false =>
        obtain ⟨rfl,-⟩ := hrest
        simp at hx
      | true =>
        obtain ⟨s',counts,hq',hmem,hreply⟩ := ih hrest hx
        exact ⟨s',counts,hq.trans hq',List.mem_append_right _ hmem,hreply⟩

/-- A reply whose count and entries are those of one snapshot. -/
def ListsSnapshot (lib : RealmLibrary) (s : Session) (snapshot : RealmSnapshot)
    (reply : Bytes) : Prop :=
  ∃ counts : List (Realm × Option UInt8),
    counts.map Prod.fst = snapshot.view (belongsToVersion s.build.toNat) ∧
      reply = realmListReply lib.toSharedLibrary s counts

theorem sessionBody_answer {tag : Nat × Session} {r : Bool × Session} {reply : Bytes}
    {u₁ u₂ : List ListEvent}
    (h : (sessionBody lib tag).Runs (u₁ ++ ⟨.auth (.sender reply),()⟩ :: u₂) r) :
    ∃ (s : Session) (snapshot : RealmSnapshot), tag.2.Quiet s ∧
      (⟨.realm .load,snapshot⟩ : ListEvent) ∈ u₁ ∧ ListsSnapshot lib s snapshot reply := by
  obtain ⟨t,hserve,hexpands⟩ := Prog.expand_runs h
  obtain ⟨t₁,t₂,rfl,hbefore⟩ := hexpands.split (fun c r v => perform_sends) rfl
  obtain ⟨s,counts,hq,hmem,hreply⟩ := serveRealmLists_answer hserve rfl
  obtain ⟨v,hruns,hsub⟩ := hbefore.mem hmem
  obtain ⟨snapshot,v',rfl,rfl,hrealms⟩ := hruns
  exact ⟨s,snapshot,hq,hsub List.mem_cons_self,counts,hrealms.symm,hreply⟩

end

/-- What holds of any number of sessions that ask for realm lists, in whatever order they
take their steps. -/
structure RefreshContract {δ : Type} (lib : RealmLibrary) (interval : UInt32)
    (first : RealmSnapshot) (p : ListPool δ) : Prop where
  /-- A refresh that starts after another finds it over, and the interval passed. -/
  exclusive : ∀ l₁ l₂ l₃ i j (now now' : Int),
    realmLog p.log = l₁ ++ (i,⟨.setNextUpdate now,()⟩) ::
      (l₂ ++ (j,⟨.setNextUpdate now',()⟩) :: l₃) →
    Finished i l₂ ∧ now+interval.toNat ≤ now'
  /-- The threads publish in the order in which they started. -/
  ordered : (published (realmLog p.log)).map Prod.fst <+:
    (starts (realmLog p.log)).map Prod.fst
  /-- A thread publishes what it built since it started, and no other refresh did. -/
  built : ∀ l₁ l₂ i snapshot, realmLog p.log = l₁ ++ (i,⟨.publish snapshot,()⟩) :: l₂ →
    ∃ l₃ now l₄ build, l₁ = l₃ ++ (i,⟨.setNextUpdate now,()⟩) :: l₄ ∧
      Undisturbed i build l₄ ∧ (buildSnapshot lib).Runs build snapshot
  /-- A load sees the generation that is latest at that time. -/
  loaded : ∀ l₁ l₂ i snapshot, realmLog p.log = l₁ ++ (i,⟨.load,snapshot⟩) :: l₂ →
    (generations first (realmLog p.log))[(published l₁).length]? = some snapshot
  /-- The loads of a session do not go back. -/
  forward : ∀ l₁ l₂ l₃ i snapshot snapshot',
    realmLog p.log = l₁ ++ (i,⟨.load,snapshot⟩) :: (l₂ ++ (i,⟨.load,snapshot'⟩) :: l₃) →
    ∃ k k' : Nat, k ≤ k' ∧ (generations first (realmLog p.log))[k]? = some snapshot ∧
      (generations first (realmLog p.log))[k']? = some snapshot'
  /-- A reply has its count and all its entries from one generation its session loaded. -/
  replies : ∀ l₁ l₂ i reply, p.log = l₁ ++ (i,⟨.auth (.sender reply),()⟩) :: l₂ →
    ∃ (th : Thread ListCall ListReply (Nat × Session) (Bool × Session)) (s : Session)
      (snapshot : RealmSnapshot),
      p.threads[i]? = some th ∧ th.tag.2.Quiet s ∧ (i,⟨.realm .load,snapshot⟩) ∈ l₁ ∧
      snapshot ∈ generations first (realmLog l₁) ∧ ListsSnapshot lib s snapshot reply
  /-- Without an interval there is no refresh. -/
  off : interval = 0 → starts (realmLog p.log) = []

section
variable {lib : RealmLibrary} {δ : Type} {interval : UInt32} {first g : Gate} {p : ListPool δ}

theorem Serial.loaded (h : Serial lib interval first p g) {l₁ l₂ : List RealmEntry} {i : Nat}
    {snapshot : RealmSnapshot} (hsplit : realmLog p.log = l₁ ++ (i,⟨.load,snapshot⟩) :: l₂) :
    (generations first.snapshot (realmLog p.log))[(published l₁).length]? = some snapshot := by
  rw [loaded_latest h.path hsplit,hsplit]
  exact generations_latest _ _ _

theorem Serial.replies (h : Serial lib interval first p g)
    (htraced : p.Traced (sessionBody lib)) {l₁ l₂ : List (Nat × ListEvent)} {i : Nat}
    {reply : Bytes} (hsplit : p.log = l₁ ++ (i,⟨.auth (.sender reply),()⟩) :: l₂) :
    ∃ (th : Thread ListCall ListReply (Nat × Session) (Bool × Session)) (s : Session)
      (snapshot : RealmSnapshot),
      p.threads[i]? = some th ∧ th.tag.2.Quiet s ∧ (i,⟨.realm .load,snapshot⟩) ∈ l₁ ∧
      snapshot ∈ generations first.snapshot (realmLog l₁) ∧
      ListsSnapshot lib s snapshot reply := by
  have hi : i < p.threads.length := htraced.known (i,⟨.auth (.sender reply),()⟩) (by simp [hsplit])
  have hth : p.threads[i]? = some p.threads[i] := List.getElem?_eq_getElem hi
  generalize p.threads[i] = th at hth
  have htrace : p.trace i =
      (l₁.filterMap fun entry => if entry.1 = i then some entry.2 else none) ++
        ⟨.auth (.sender reply),()⟩ ::
          (l₂.filterMap fun entry => if entry.1 = i then some entry.2 else none) := by
    simp [Pool.trace,hsplit]
  obtain ⟨t,r,hruns⟩ := (htraced.after i th hth).completes
  rw [htrace,List.append_assoc] at hruns
  obtain ⟨s,snapshot,hq,hload,hlists⟩ := sessionBody_answer hruns
  have hmem : (i,⟨.realm .load,snapshot⟩) ∈ l₁ := by
    obtain ⟨⟨j,ev⟩,hentry,hev⟩ := List.mem_filterMap.mp hload
    simp only [Option.ite_none_right_eq_some,Option.some.injEq] at hev
    obtain ⟨rfl,rfl⟩ := hev
    exact hentry
  refine ⟨th,s,snapshot,hth,hq,hmem,?_,hlists⟩
  obtain ⟨m₁,m₂,rfl⟩ := List.append_of_mem hmem
  have hlog : realmLog p.log = realmLog m₁ ++ (i,⟨.load,snapshot⟩) ::
      realmLog (m₂ ++ (i,⟨.auth (.sender reply),()⟩) :: l₂) := by
    rw [hsplit,List.append_assoc,realmLog_append]
    rfl
  have hgeneration := generations_latest first.snapshot (realmLog m₁)
    ((i,⟨.load,snapshot⟩) :: realmLog m₂)
  rw [← loaded_latest h.path hlog] at hgeneration
  rw [realmLog_append]
  exact List.mem_of_getElem? hgeneration

theorem Serial.contract (h : Serial lib interval first p g) (hfirst : first.holder = none)
    (htraced : p.Traced (sessionBody lib)) :
    RefreshContract lib interval first.snapshot p := by
  constructor
  case exclusive =>
    intro l₁ l₂ l₃ i j now now' hsplit
    exact starts_apart hfirst h.path hsplit
  case ordered =>
    rw [starts_published hfirst h.path]
    exact List.prefix_append _ _
  case built =>
    intro l₁ l₂ i snapshot hsplit
    exact published_built hfirst h.path hsplit
  case loaded =>
    intro l₁ l₂ i snapshot hsplit
    exact h.loaded hsplit
  case forward =>
    intro l₁ l₂ l₃ i snapshot snapshot' hsplit
    have hlater : realmLog p.log =
        (l₁ ++ (i,⟨.load,snapshot⟩) :: l₂) ++ (i,⟨.load,snapshot'⟩) :: l₃ := by
      rw [hsplit,List.append_assoc]
      rfl
    refine ⟨_,_,?_,h.loaded hsplit,h.loaded hlater⟩
    rw [published_append,List.length_append]
    exact Nat.le_add_right _ _
  case replies =>
    intro l₁ l₂ i reply hsplit
    exact h.replies htraced hsplit
  case off =>
    intro hoff
    rw [starts,List.filterMap_eq_nil_iff]
    rintro ⟨i,call,reply⟩ hmem
    obtain ⟨l₁,l₂,hsplit⟩ := List.append_of_mem hmem
    cases call with
    | setNextUpdate now => exact absurd hoff (started_since hfirst h.path hsplit).1
    | _ => rfl

end

/-- For any number of sessions, any clock and any order of their steps: refreshes do not
overlap and are an interval apart, what they build is published in their order, no session
loads an older snapshot than before, and every reply is of one snapshot. -/
theorem realm_refreshes_serial {δ : Type} (lib : RealmLibrary)
    (outside : Env ListCall ListReply δ) (work : δ → δ) (snapshot : RealmSnapshot)
    (interval : UInt32) (nextUpdate : Int) (d : δ) (moves : List (Move (Nat × Session))) :
    RefreshContract lib interval snapshot
      ((Pool.start (⟨snapshot,false,interval,nextUpdate⟩,d)).run (listEnv outside)
        (sessionBody lib) (fun w => (w.1,work w.2)) moves) := by
  let first : Gate := ⟨none,nextUpdate,snapshot⟩
  have hstart : Serial lib interval first
      (Pool.start (⟨snapshot,false,interval,nextUpdate⟩,d)) first :=
    ⟨.nil,⟨rfl,rfl,rfl,rfl⟩,by simp [Pool.start],by simp [first,Gate.phase]⟩
  obtain ⟨g,hserial⟩ := hstart.run work moves
  exact hserial.contract rfl ((Pool.start_traced _).run moves)

def listingOutside : Env ListCall ListReply Nat
  | .realm c, n => failingDatabase c n
  | .auth (.selectAccountId _), n => (some (7,[]),n)
  | .auth _, n => (default,n)

-- the second session finds the lock taken and lists what there was
example :
    let s : Session := { listingSession with build := 6141 }
    let p := (Pool.start (⟨.empty,false,20,0⟩,0) : ListPool Nat).run (listEnv listingOutside)
      (sessionBody referenceRealmLibrary) id
      ([.start (1,s),.start (1,s)] ++
        List.replicate 5 (.call 0) ++ List.replicate 20 (.call 1) ++
        List.replicate 20 (.call 0))
    starts (realmLog p.log) = [(0,0)] ∧
      (published (realmLog p.log)).map Prod.fst = [0] ∧
      (p.log.filterMap fun entry => match entry with
        | (i,⟨.auth (.sender bytes),_⟩) => some (i,byteAt bytes 7)
        | _ => none) = [(1,0),(0,1)] := by
  decide +kernel

end Realmd
