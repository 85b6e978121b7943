import Realmd.Authentication
import Realmd.Decimal
import Realmd.Quoting
set_option autoImplicit false

namespace Realmd
open ByteCodec Interaction Quoting

/-- Quotations of an SQL text. Behind a backslash a few letters stand for bytes that
have no letter of their own. -/
def sqlStyle : Style UInt8 where
  quote := 39
  mark := 92
  meaning c :=
    if c = 48 then 0
    else if c = 98 then 8
    else if c = 116 then 9
    else if c = 110 then 10
    else if c = 114 then 13
    else if c = 90 then 26
    else c
  quote_ne_mark := by decide

def directives : Bytes → Format UInt8
  | [] => []
  | [c] => [some c]
  | c :: d :: rest =>
      if c = 37 ∧ (d = 115 ∨ d = 117 ∨ d = 100) then none :: directives rest
      else some c :: directives (d :: rest)

/-- What `%d` makes of an unsigned number. -/
def signedDecimal (n : UInt32) : Bytes :=
  if n.toNat < 2^31 then decimal n.toNat else [45] ++ decimal (2^32-n.toNat)

structure SqlQuery where
  format : Bytes
  args : List Bytes
  deriving DecidableEq, Repr

/-- The text handed to the database. Each argument is passed as a C string. -/
def SqlQuery.text (q : SqlQuery) : Bytes := (directives q.format).print (q.args.map cString)

def Statement.query : Statement → SqlQuery
  | .updateVerifier v s username =>
      ⟨ascii "UPDATE `account` SET `v` = '%s', `s` = '%s' WHERE `username` = '%s'",
        [v,s,username]⟩
  | .publishSession sessionkey last_ip locale client_locale os username =>
      ⟨ascii "UPDATE `account` SET `sessionkey` = '%s', `last_ip` = '%s', " ++
          ascii "`last_login` = NOW(), `locale` = '%u', " ++
          ascii "`client_locale` = NULLIF('%s', ''), " ++ ascii "`os` = '%s', " ++
          ascii "`failed_logins` = 0 WHERE `username` = '%s'",
        [sessionkey,last_ip,decimal locale,client_locale,os,username]⟩
  | .publishIdentity client_locale os username =>
      ⟨ascii "UPDATE `account` SET `client_locale` = NULLIF('%s', ''), " ++
          ascii "`os` = '%s' WHERE `username` = '%s'",
        [client_locale,os,username]⟩
  | .countFailedLogin username =>
      ⟨ascii "UPDATE `account` SET `failed_logins` = `failed_logins` + 1 " ++
          ascii "WHERE `username` = '%s'",
        [username]⟩
  | .banAccount id banTime =>
      ⟨ascii "INSERT INTO `account_banned` VALUES ('%u',UNIX_TIMESTAMP()," ++
          ascii "UNIX_TIMESTAMP()+'%u','MaNGOS realmd','Failed login autoban',1)",
        [decimal id.toNat,decimal banTime]⟩
  | .banIp ip banTime =>
      ⟨ascii "INSERT INTO `ip_banned` VALUES ('%s',UNIX_TIMESTAMP()," ++
          ascii "UNIX_TIMESTAMP()+'%u','MaNGOS realmd','Failed login autoban')",
        [ip,decimal banTime]⟩

def queryOf : Call → Option SqlQuery
  | .selectIpBanned ip =>
      some ⟨ascii "SELECT `unbandate` FROM `ip_banned` WHERE " ++
          ascii "(`unbandate` = `bandate` OR `unbandate` > UNIX_TIMESTAMP()) AND `ip` = '%s'",
        [ip]⟩
  | .selectAccount username =>
      some ⟨ascii "SELECT `sha_pass_hash`,`id`,`locked`,`last_ip`,`gmlevel`,`v`,`s` " ++
          ascii "FROM `account` WHERE `username` = '%s'",
        [username]⟩
  | .selectAccountBanned id =>
      some ⟨ascii "SELECT `bandate`,`unbandate` FROM `account_banned` WHERE " ++
          ascii "`id` = %u AND `active` = 1 AND " ++
          ascii "(`unbandate` > UNIX_TIMESTAMP() OR `unbandate` = `bandate`)",
        [decimal id.toNat]⟩
  | .selectSessionKey username =>
      some ⟨ascii "SELECT `sessionkey` FROM `account` WHERE `username` = '%s'",[username]⟩
  | .selectFailedLogins username =>
      some ⟨ascii "SELECT `id`, `failed_logins` FROM `account` WHERE `username` = '%s'",
        [username]⟩
  | .selectAccountId username =>
      some ⟨ascii "SELECT `id`,`sha_pass_hash` FROM `account` WHERE `username` = '%s'",
        [username]⟩
  | .selectNumChars realmid acctid =>
      some ⟨ascii "SELECT `numchars` FROM `realmcharacters` " ++
          ascii "WHERE `realmid` = '%d' AND `acctid`='%u'",
        [signedDecimal realmid,decimal acctid.toNat]⟩
  | .pExecute statement | .directPExecute statement => some statement.query
  | _ => none

def sqlHoles (format : Bytes) : Option (List Hole) :=
  if (directives format).wellQuoted sqlStyle then
    (tokens sqlStyle.lift (directives format)).map (·.filterMap Token.hole)
  else none

structure Passes (written meant : Bytes) : Prop where
  whole : cString written = written
  spells : Spells sqlStyle written meant

theorem cString_self {text : Bytes} (h : 0 ∉ text) : cString text = text := by
  rw [cString,List.takeWhile_eq_self_iff]
  intro c hc
  have hne : c ≠ 0 := by
    rintro rfl
    exact h hc
  simpa using hne

theorem Passes.self {text : Bytes} (h : ∀ c ∈ text, c ≠ 0 ∧ c ≠ 39 ∧ c ≠ 92) :
    Passes text text := by
  refine ⟨cString_self fun hc => (h 0 hc).1 rfl,.self ?_ ?_⟩
  · exact fun hc => (h 39 hc).2.1 rfl
  · exact fun hc => (h 92 hc).2.2 rfl

theorem escapeByte_spells (c : UInt8) : Spells sqlStyle (escapeByte c) [c] := by
  have hmarked : ∀ d, Spells sqlStyle [92,d] [sqlStyle.meaning d] := fun d =>
    .marked .nil
  unfold escapeByte
  split
  · rename_i h
    exact h ▸ hmarked 48
  split
  · rename_i h
    exact h ▸ hmarked 110
  split
  · rename_i h
    exact h ▸ hmarked 114
  split
  · rename_i h
    exact h ▸ hmarked 90
  split
  · rename_i h
    rcases h with rfl | rfl | rfl
    · exact hmarked 92
    · exact hmarked 39
    · exact hmarked 34
  · rename_i h
    simp only [not_or] at h
    exact .plain h.2.1 h.1 .nil

theorem zero_notMem_escapeByte (c : UInt8) : 0 ∉ escapeByte c := by
  unfold escapeByte
  split <;> try decide
  split <;> try decide
  split <;> try decide
  split <;> try decide
  split
  · rename_i h
    rcases h with rfl | rfl | rfl <;> decide
  · rename_i hc _ _ _ _
    simpa using Ne.symm hc

theorem escaped_passes (text : Bytes) : Passes (text.flatMap escapeByte) text := by
  refine ⟨cString_self ?_,.flatMap escapeByte_spells text⟩
  intro h
  obtain ⟨c,-,hc⟩ := List.mem_flatMap.mp h
  exact zero_notMem_escapeByte c hc

theorem decimal_plain (n : Nat) : ∀ c ∈ decimal n, c ≠ 0 ∧ c ≠ 39 ∧ c ≠ 92 := by
  intro c hc
  have hdigit := (isDigit_iff c).mp (isDigit_decimal n c hc)
  refine ⟨?_,?_,?_⟩ <;> rintro rfl <;> revert hdigit <;> decide

theorem signedDecimal_plain (n : UInt32) : ∀ c ∈ signedDecimal n, c ≠ 0 ∧ c ≠ 39 ∧ c ≠ 92 := by
  unfold signedDecimal
  split
  · exact decimal_plain _
  · intro c hc
    rcases List.mem_cons.mp hc with rfl | hc
    · decide
    · exact decimal_plain _ c hc

theorem hexValue_plain {c : UInt8} (h : (hexValue c).isSome = true) : c ≠ 0 ∧ c ≠ 39 ∧ c ≠ 92 := by
  refine ⟨?_,?_,?_⟩ <;> rintro rfl <;> revert h <;> decide

def Takes : Hole → Bytes × Bytes → Prop
  | .bare, arg => (∀ c ∈ arg.1, c ≠ 0 ∧ c ≠ 39 ∧ c ≠ 92) ∧ arg.1 = arg.2
  | .quoted, arg => Passes arg.1 arg.2

theorem Takes.fits {hole : Hole} {arg : Bytes × Bytes} (h : Takes hole arg) :
    hole.Fits sqlStyle (cString arg.1,arg.2) := by
  cases hole with
  | bare =>
    obtain ⟨hplain,heq⟩ := h
    have hpass := Passes.self hplain
    rw [Hole.Fits,hpass.whole]
    exact ⟨fun hc => (hplain 39 hc).2.1 rfl,heq⟩
  | quoted =>
    have hpass : Passes arg.1 arg.2 := h
    rw [Hole.Fits,hpass.whole]
    exact hpass.spells

/-- The text of a query reads as its format does, with what its arguments mean. -/
def SqlQuery.ReadsAs (q : SqlQuery) (meant : List Bytes) : Prop :=
  ∃ ts, tokens sqlStyle.lift (directives q.format) = some ts ∧
    tokens sqlStyle q.text = some (fill ts meant)

theorem SqlQuery.reads {q : SqlQuery} {holes : List Hole} {meant : List Bytes}
    (hholes : sqlHoles q.format = some holes) (hlen : meant.length = q.args.length)
    (hargs : List.Forall₂ Takes holes (q.args.zip meant)) : q.ReadsAs meant := by
  unfold sqlHoles at hholes
  split at hholes
  · rename_i hwell
    obtain ⟨ts,hts,rfl⟩ := Option.map_eq_some_iff.mp hholes
    have hfits : List.Forall₂ (Hole.Fits sqlStyle) (ts.filterMap Token.hole)
        ((q.args.zip meant).map fun arg => (cString arg.1,arg.2)) := by
      rw [List.forall₂_map_right_iff]
      exact hargs.imp fun _ _ h => h.fits
    have hreads := Format.reads hts hwell hfits
    have hwritten : ((q.args.zip meant).map fun arg => (cString arg.1,arg.2)).map (·.1) =
        q.args.map cString := by
      rw [List.map_map]
      change (q.args.zip meant).map (cString ∘ Prod.fst) = _
      rw [← List.map_map,List.map_fst_zip (by omega)]
    have hmeant : ((q.args.zip meant).map fun arg => (cString arg.1,arg.2)).map (·.2) = meant := by
      rw [List.map_map]
      change (q.args.zip meant).map Prod.snd = _
      rw [List.map_snd_zip (by omega)]
    rw [hwritten,hmeant] at hreads
    exact ⟨ts,hts,hreads⟩
  · contradiction

end Realmd
