import Realmd.ByteCodec
set_option autoImplicit false

namespace Realmd
open ByteCodec

inductive ServiceDaemonMode where
  | run
  | stop
  deriving DecidableEq, Repr

def ServiceDaemonMode.word : ServiceDaemonMode → Bytes
  | .run => ascii "run"
  | .stop => ascii "stop"

structure CommandLine where
  cfg_file : Bytes
  serviceDaemonMode : Option ServiceDaemonMode
  deriving DecidableEq, Repr

inductive ArgOption where
  | config
  | service
  deriving DecidableEq, Repr

def ArgOption.letter : ArgOption → UInt8
  | .config => 99
  | .service => 115

def ArgOption.ofLetter (opt : UInt8) : Option ArgOption :=
  if opt = 99 then some .config else if opt = 115 then some .service else none

def CommandLine.set (cl : CommandLine) : ArgOption → Bytes → Option CommandLine
  | .config, value => some { cl with cfg_file := value }
  | .service, mode =>
      if mode = ascii "run" then some { cl with serviceDaemonMode := some .run }
      else if mode = ascii "stop" then some { cl with serviceDaemonMode := some .stop }
      else none

/-- The loop over the arguments of `main`: the settings, or the exit code. -/
def parseArgs : CommandLine → List Bytes → Except UInt8 CommandLine
  | cl, [] => .ok cl
  | cl, arg :: rest =>
    if arg = ascii "--version" then .error 0
    else match arg with
      | 45 :: opt :: attached =>
        if opt = 118 then .error 0
        else match ArgOption.ofLetter opt with
          | none => .error 1
          | some option =>
            match attached, rest with
            | [], [] => .error 1
            | [], value :: rest =>
              match cl.set option value with
              | none => .error 1
              | some cl => parseArgs cl rest
            | _ :: _, rest =>
              match cl.set option attached with
              | none => .error 1
              | some cl => parseArgs cl rest
      | _ => .error 1

inductive Setting where
  | config (file : Bytes)
  | service (mode : ServiceDaemonMode)
  deriving DecidableEq, Repr

def Setting.option : Setting → ArgOption
  | .config _ => .config
  | .service _ => .service

def Setting.value : Setting → Bytes
  | .config file => file
  | .service mode => mode.word

def Setting.apply (cl : CommandLine) : Setting → CommandLine
  | .config file => { cl with cfg_file := file }
  | .service mode => { cl with serviceDaemonMode := some mode }

def Setting.file? : Setting → Option Bytes
  | .config file => some file
  | .service _ => none

def Setting.mode? : Setting → Option ServiceDaemonMode
  | .config _ => none
  | .service mode => some mode

def CommandLine.last (cl : CommandLine) (ss : List Setting) : CommandLine where
  cfg_file := (ss.filterMap Setting.file?).getLast?.getD cl.cfg_file
  serviceDaemonMode := (ss.filterMap Setting.mode?).getLast?.or cl.serviceDaemonMode

/-- The arguments that ask for some settings: an option has its value attached, or as
the next argument, which is the only place for an empty one. -/
inductive SpelledBy : List Setting → List Bytes → Prop where
  | nil : SpelledBy [] []
  | attached (s : Setting) {ss : List Setting} {args : List Bytes} (hne : s.value ≠ [])
      (h : SpelledBy ss args) : SpelledBy (s :: ss) ((45 :: s.option.letter :: s.value) :: args)
  | separate (s : Setting) {ss : List Setting} {args : List Bytes} (h : SpelledBy ss args) :
      SpelledBy (s :: ss) ([45,s.option.letter] :: s.value :: args)

def AsksVersion (arg : Bytes) : Prop :=
  arg = ascii "--version" ∨ ∃ rest, arg = 45 :: 118 :: rest

/-- What the arguments mean: settings, a question for the version after some settings,
which nothing behind it changes, or neither. -/
inductive CommandLine.Reads (cl : CommandLine) :
    List Bytes → Except UInt8 CommandLine → Prop where
  | settings {ss : List Setting} {args : List Bytes} (h : SpelledBy ss args) :
      CommandLine.Reads cl args (.ok (cl.last ss))
  | version {ss : List Setting} {front : List Bytes} {arg : Bytes} (back : List Bytes)
      (h : SpelledBy ss front) (harg : AsksVersion arg) :
      CommandLine.Reads cl (front ++ arg :: back) (.error 0)
  | bad {args : List Bytes} (hsettings : ∀ ss, ¬ SpelledBy ss args)
      (hversion : ∀ ss front arg back, SpelledBy ss front → AsksVersion arg →
        args ≠ front ++ arg :: back) : CommandLine.Reads cl args (.error 1)

theorem CommandLine.last_cons (cl : CommandLine) (s : Setting) (ss : List Setting) :
    cl.last (s :: ss) = (s.apply cl).last ss := by
  cases s with
  | config file =>
    simp only [last,Setting.apply,List.filterMap_cons,Setting.file?,Setting.mode?,
      List.getLast?_cons,Option.getD_some]
  | service mode =>
    simp only [last,Setting.apply,List.filterMap_cons,Setting.file?,Setting.mode?,
      List.getLast?_cons]
    cases (ss.filterMap Setting.mode?).getLast? <;> rfl

theorem Setting.set_value (s : Setting) (cl : CommandLine) :
    cl.set s.option s.value = some (s.apply cl) := by
  cases s with
  | config file => rfl
  | service mode => cases mode <;> rfl

theorem CommandLine.set_some {cl cl' : CommandLine} {option : ArgOption} {value : Bytes}
    (h : cl.set option value = some cl') :
    ∃ s : Setting, s.option = option ∧ s.value = value ∧ s.apply cl = cl' := by
  cases option with
  | config =>
    exact ⟨.config value,rfl,rfl,Option.some.inj h⟩
  | service =>
    simp only [set] at h
    split at h
    · rename_i hrun
      exact ⟨.service .run,rfl,hrun.symm,Option.some.inj h⟩
    · split at h
      · rename_i hstop
        exact ⟨.service .stop,rfl,hstop.symm,Option.some.inj h⟩
      · contradiction

theorem Setting.eq_of_value {s s' : Setting} (ho : s.option = s'.option)
    (hv : s.value = s'.value) : s = s' := by
  cases s with
  | config file =>
    cases s' with
    | config file' => exact congrArg config hv
    | service mode' => contradiction
  | service mode =>
    cases s' with
    | config file' => contradiction
    | service mode' =>
      cases mode <;> cases mode' <;> first | rfl | exact absurd hv (by decide)

theorem ArgOption.letter_inj {o o' : ArgOption} (h : o.letter = o'.letter) : o = o' := by
  cases o <;> cases o' <;> first | rfl | exact absurd h (by decide)

theorem ArgOption.ofLetter_some {opt : UInt8} {o : ArgOption} (h : ofLetter opt = some o) :
    o.letter = opt := by
  unfold ofLetter at h
  split at h
  · rename_i hc
    obtain rfl := Option.some.inj h
    exact hc.symm
  · split at h
    · rename_i hs
      obtain rfl := Option.some.inj h
      exact hs.symm
    · contradiction

theorem ArgOption.letter_known (o : ArgOption) (value : Bytes) :
    45 :: o.letter :: value ≠ ascii "--version" ∧ o.letter ≠ 118 ∧
      ofLetter o.letter = some o := by
  have hversion : ascii "--version" = 45 :: 45 :: ascii "version" := rfl
  rw [hversion]
  cases o <;> simp [letter,ofLetter]

theorem parseArgs_attached (cl : CommandLine) (o : ArgOption) {value : Bytes} (hne : value ≠ [])
    (rest : List Bytes) :
    parseArgs cl ((45 :: o.letter :: value) :: rest) =
      match cl.set o value with
      | none => .error 1
      | some cl => parseArgs cl rest := by
  obtain ⟨hlong,hv,hof⟩ := o.letter_known value
  obtain ⟨b,bs,rfl⟩ := List.exists_cons_of_ne_nil hne
  rw [parseArgs,if_neg hlong]
  simp only [if_neg hv,hof]

theorem parseArgs_separate (cl : CommandLine) (o : ArgOption) (value : Bytes)
    (rest : List Bytes) :
    parseArgs cl ([45,o.letter] :: value :: rest) =
      match cl.set o value with
      | none => .error 1
      | some cl => parseArgs cl rest := by
  obtain ⟨hlong,hv,hof⟩ := o.letter_known []
  rw [parseArgs,if_neg hlong]
  simp only [if_neg hv,hof]

theorem parseArgs_version {arg : Bytes} (h : AsksVersion arg) (cl : CommandLine)
    (back : List Bytes) : parseArgs cl (arg :: back) = .error 0 := by
  unfold parseArgs
  rcases h with rfl | ⟨rest,rfl⟩
  · rw [if_pos rfl]
  · simp

theorem SpelledBy.parseArgs_append {ss : List Setting} {args : List Bytes} (h : SpelledBy ss args)
    (cl : CommandLine) (rest : List Bytes) :
    parseArgs cl (args ++ rest) = parseArgs (cl.last ss) rest := by
  induction h generalizing cl with
  | nil => rfl
  | @attached s ss args hne h ih =>
    rw [CommandLine.last_cons,← ih,List.cons_append,parseArgs_attached cl s.option hne,
      s.set_value]
  | @separate s ss args h ih =>
    rw [CommandLine.last_cons,← ih,List.cons_append,List.cons_append,
      parseArgs_separate cl s.option,s.set_value]

theorem SpelledBy.unambiguous {ss ss' : List Setting} {args : List Bytes} (h : SpelledBy ss args)
    (h' : SpelledBy ss' args) : ss = ss' := by
  induction h generalizing ss' with
  | nil =>
    cases h'
    rfl
  | @attached s ss args hne h ih =>
    generalize hall : (45 :: s.option.letter :: s.value) :: args = all at h'
    cases h' with
    | nil => contradiction
    | attached s' hne' h' =>
      simp only [List.cons.injEq] at hall
      obtain ⟨⟨-,ho,hv⟩,rfl⟩ := hall
      rw [Setting.eq_of_value (ArgOption.letter_inj ho) hv,ih h']
    | separate s' h' =>
      simp only [List.cons.injEq] at hall
      exact absurd hall.1.2.2 hne
  | @separate s ss args h ih =>
    generalize hall : [45,s.option.letter] :: s.value :: args = all at h'
    cases h' with
    | nil => contradiction
    | attached s' hne' h' =>
      simp only [List.cons.injEq] at hall
      exact absurd hall.1.2.2.symm hne'
    | separate s' h' =>
      simp only [List.cons.injEq] at hall
      obtain ⟨⟨-,ho,-⟩,hv,rfl⟩ := hall
      rw [Setting.eq_of_value (ArgOption.letter_inj ho) hv,ih h']

/-- What the loop makes of the arguments, from what it makes of the rest. -/
inductive Told (cl : CommandLine) : List Bytes → Except UInt8 CommandLine → Prop where
  | settings {ss : List Setting} {args : List Bytes} (h : SpelledBy ss args) :
      Told cl args (.ok (cl.last ss))
  | version {ss : List Setting} {front : List Bytes} {arg : Bytes} (back : List Bytes)
      (h : SpelledBy ss front) (harg : AsksVersion arg) :
      Told cl (front ++ arg :: back) (.error 0)
  | bad (args : List Bytes) : Told cl args (.error 1)

theorem Told.cons {s : Setting} {cl : CommandLine} (spelled : List Bytes) {args : List Bytes}
    {out : Except UInt8 CommandLine}
    (hs : ∀ {ss args}, SpelledBy ss args → SpelledBy (s :: ss) (spelled ++ args))
    (h : Told (s.apply cl) args out) : Told cl (spelled ++ args) out := by
  cases h with
  | settings h =>
    rw [← cl.last_cons]
    exact .settings (hs h)
  | version back h harg =>
    rw [← List.append_assoc]
    exact .version back (hs h) harg
  | bad => exact .bad _

theorem parseArgs_told (cl : CommandLine) (args : List Bytes) :
    Told cl args (parseArgs cl args) := by
  fun_induction parseArgs cl args with
  | case1 cl => exact .settings .nil
  | case2 cl rest => exact .version rest .nil (.inl rfl)
  | case3 cl rest attached => exact .version rest .nil (.inr ⟨attached,rfl⟩)
  | case4 | case5 | case6 | case10 => exact .bad _
  | case7 cl opt _ option hof value rest cl' hset _ ih =>
    obtain ⟨s,rfl,rfl,rfl⟩ := CommandLine.set_some hset
    obtain rfl := ArgOption.ofLetter_some hof
    exact ih.cons [[45,s.option.letter],s.value] (.separate s)
  | case8 cl opt _ option hof b bs rest hset =>
    rw [hset]
    exact .bad _
  | case9 cl opt _ option hof b bs rest cl' hset _ ih =>
    obtain ⟨s,rfl,hvalue,rfl⟩ := CommandLine.set_some hset
    obtain rfl := ArgOption.ofLetter_some hof
    have hne : s.value ≠ [] := by simp [hvalue]
    rw [hset,← hvalue]
    exact ih.cons [45 :: s.option.letter :: s.value] (.attached s hne)

/-- The command line is read by its grammar: settings come out exactly where the arguments
spell some, the last of each kind, the version is told exactly where it is asked for before
anything is wrong, and everything else is refused. No arguments spell two lists of
settings. -/
theorem command_line_grammar (cl : CommandLine) (args : List Bytes) :
    (∀ out, parseArgs cl args = out ↔ cl.Reads args out) ∧
      ∀ ss ss', SpelledBy ss args → SpelledBy ss' args → ss = ss' := by
  have hsettings : ∀ {ss}, SpelledBy ss args → parseArgs cl args = .ok (cl.last ss) := by
    intro ss h
    simpa [parseArgs] using h.parseArgs_append cl []
  have hversion : ∀ {ss front arg back}, SpelledBy ss front → AsksVersion arg →
      args = front ++ arg :: back → parseArgs cl args = .error 0 := by
    intro ss front arg back h harg hargs
    rw [hargs,h.parseArgs_append,parseArgs_version harg]
  refine ⟨fun out => ⟨?_,?_⟩,fun ss ss' h h' => h.unambiguous h'⟩
  · rintro rfl
    have htold := parseArgs_told cl args
    generalize hout : parseArgs cl args = out at htold
    cases htold with
    | settings h => exact .settings h
    | version back h harg => exact .version back h harg
    | bad =>
      refine .bad ?_ ?_
      · intro ss h
        rw [hsettings h] at hout
        contradiction
      · intro ss front arg back h harg hargs
        rw [hversion h harg hargs] at hout
        cases hout
  · intro h
    cases h with
    | settings h => exact hsettings h
    | version back h harg => exact hversion h harg rfl
    | bad hs hv =>
      have htold := parseArgs_told cl args
      generalize parseArgs cl args = out at htold
      cases htold with
      | settings h => exact absurd h (hs _)
      | version back h harg => exact absurd rfl (hv _ _ _ back h harg)
      | bad => rfl

example : parseArgs ⟨ascii "realmd.conf",none⟩
    [ascii "-crealmd2.conf",ascii "-s",ascii "run",ascii "-c",ascii "-v"] =
      .ok ⟨ascii "-v",some .run⟩ := by
  decide

end Realmd
