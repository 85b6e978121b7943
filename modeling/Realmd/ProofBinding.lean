import Realmd.SessionKeys
set_option autoImplicit false

namespace Realmd
open ByteCodec Interaction

def Collision (lib : SharedLibrary) (text text' : Bytes) : Prop :=
  text ≠ text' ∧ lib.sha1 text = lib.sha1 text'

def logonText (lib : SharedLibrary) (request : Request) : Bytes :=
  let s := request.session.keyed lib request.frame
  lib.asByteArray (groupHash lib) shaDigestLength ++ (lib.sha1 s.login).bytes ++
    lib.asByteArray s.s saltByteSize ++
    lib.asByteArray (proofA request.frame) srpEphemeralWidth ++
    lib.asByteArray s.B srpEphemeralWidth ++ lib.asByteArray s.K srpSessionKeyWidth

def reconnectText (lib : SharedLibrary) (request : Request) : Bytes :=
  let s := request.session
  s.login ++ lib.asByteArray (leNat (slice request.frame 1 16)) srpReconnectWidth ++
    lib.asByteArray s.reconnectProof srpReconnectWidth ++
    lib.asByteArray s.K srpSessionKeyWidth

/-- Two logon proofs are about the same account, salt, public values and key. -/
structure SameLogon (lib : SharedLibrary) (request request' : Request) : Prop where
  login : request.session.login = request'.session.login
  salt : lib.asByteArray request.session.s saltByteSize =
    lib.asByteArray request'.session.s saltByteSize
  client : lib.asByteArray (proofA request.frame) srpEphemeralWidth =
    lib.asByteArray (proofA request'.frame) srpEphemeralWidth
  server : lib.asByteArray request.session.B srpEphemeralWidth =
    lib.asByteArray request'.session.B srpEphemeralWidth
  key : lib.asByteArray (request.session.keyed lib request.frame).K srpSessionKeyWidth =
    lib.asByteArray (request'.session.keyed lib request'.frame).K srpSessionKeyWidth

structure SameReconnect (lib : SharedLibrary) (request request' : Request) : Prop where
  login : request.session.login = request'.session.login
  server : lib.asByteArray request.session.reconnectProof srpReconnectWidth =
    lib.asByteArray request'.session.reconnectProof srpReconnectWidth
  key : lib.asByteArray request.session.K srpSessionKeyWidth =
    lib.asByteArray request'.session.K srpSessionKeyWidth

section
variable {lib : SharedLibrary} {cfg : WrongPass} {request request' : Request}

theorem Digest.eq_of_bytes {d d' : Digest} (h : d.bytes = d'.bytes) : d = d' := by
  cases d
  cases d'
  simpa using h

/-- All parts but the name in front have a width of their own. -/
theorem logonText_inj (h : logonText lib request = logonText lib request') :
    SameLogon lib request request' ∨
      Collision lib request.session.login request'.session.login := by
  obtain ⟨h₁,hkey⟩ := List.append_inj' h (by simp [lib.asByteArray_length])
  obtain ⟨h₂,hserver⟩ := List.append_inj' h₁ (by simp [lib.asByteArray_length])
  obtain ⟨h₃,hclient⟩ := List.append_inj' h₂ (by simp [lib.asByteArray_length])
  obtain ⟨h₄,hsalt⟩ := List.append_inj' h₃ (by simp [lib.asByteArray_length])
  have hdigest : lib.sha1 request.session.login = lib.sha1 request'.session.login :=
    Digest.eq_of_bytes (List.append_cancel_left h₄)
  by_cases hlogin : request.session.login = request'.session.login
  · exact .inl ⟨hlogin,hsalt,hclient,hserver,hkey⟩
  · exact .inr ⟨hlogin,hdigest⟩

theorem reconnectText_inj (h : reconnectText lib request = reconnectText lib request') :
    SameReconnect lib request request' := by
  obtain ⟨h₁,hkey⟩ := List.append_inj' h (by simp [lib.asByteArray_length])
  obtain ⟨h₂,hserver⟩ := List.append_inj' h₁ (by simp [lib.asByteArray_length])
  obtain ⟨hlogin,-⟩ := List.append_inj' h₂ (by simp [lib.asByteArray_length])
  exact ⟨hlogin,hserver,hkey⟩

variable {t : List AuthEvent} {r : Bool × Session}

theorem logonProof_vouches (hcmd : request.cmd = .authLogonProof)
    (h : (requestBody lib cfg request).Runs t r) (hstatus : r.2.status ≠ .closed) :
    slice request.frame 33 20 = (lib.sha1 (logonText lib request)).bytes := by
  unfold requestBody at h
  rw [hcmd] at h
  cases logonProof_runs h with
  | zeroA hA => exact absurd rfl hstatus
  | rejected hA hM ht hq => exact absurd hq.status hstatus
  | accepted hA hM haccept =>
    rw [← lib.asByteArray_digest (lib.sha1 (logonText lib request))]
    exact hM.symm

theorem reconnectProof_vouches (hcmd : request.cmd = .authReconnectProof)
    (h : (requestBody lib cfg request).Runs t r) (hstatus : r.2.status ≠ .closed) :
    slice request.frame 17 20 = (lib.sha1 (reconnectText lib request)).bytes := by
  unfold requestBody at h
  rw [hcmd] at h
  cases reconnectProof_runs h with
  | missing => exact absurd rfl hstatus
  | mismatch hR ht hc hq => exact absurd hq.status hstatus
  | unpublished hR ht hc hq => exact absurd hq.status hstatus
  | published hlogin hproof hK hR ht honce hq => exact hR.symm

end

/-- A proof that the daemon accepted is good for nothing else: two that carry the same
digest, whatever sessions they came in and whatever happened in between, are about the
same account, the same challenge of the server and the same key, unless the texts that
were hashed are a collision. -/
theorem proofs_bind_challenges {ω : Type} (lib : SharedLibrary) (cfg : WrongPass)
    (outside : AuthEnv ω) (bg : Background ω) (db : LoginDatabase) (o : ω)
    (moves : List (Move Request)) (p : RequestPool ω)
    (hp : p = RequestPool.run lib cfg outside bg moves (Pool.start (db,o))) :
    ∀ (i i' : Nat) (request request' : Request) (r r' : Bool × Session),
      p.threads[i]? = some ⟨request,.ret r⟩ → p.threads[i']? = some ⟨request',.ret r'⟩ →
      r.2.status ≠ .closed → r'.2.status ≠ .closed →
      (request.cmd = .authLogonProof → request'.cmd = .authLogonProof →
        slice request.frame 33 20 = slice request'.frame 33 20 →
          SameLogon lib request request' ∨
            Collision lib request.session.login request'.session.login ∨
            Collision lib (logonText lib request) (logonText lib request')) ∧
      (request.cmd = .authReconnectProof → request'.cmd = .authReconnectProof →
        slice request.frame 17 20 = slice request'.frame 17 20 →
          SameReconnect lib request request' ∨
            Collision lib (reconnectText lib request) (reconnectText lib request')) := by
  have htraced : p.Traced (requestBody lib cfg) := by
    rw [hp]
    exact (Pool.start_traced (db,o)).run moves
  intro i i' request request' r r' hth hth' hstatus hstatus'
  have hruns := htraced.runs hth
  have hruns' := htraced.runs hth'
  constructor
  · intro hcmd hcmd' hsame
    rw [logonProof_vouches hcmd hruns hstatus,logonProof_vouches hcmd' hruns' hstatus'] at hsame
    by_cases htext : logonText lib request = logonText lib request'
    · exact (logonText_inj htext).imp_right .inl
    · exact .inr (.inr ⟨htext,Digest.eq_of_bytes hsame⟩)
  · intro hcmd hcmd' hsame
    rw [reconnectProof_vouches hcmd hruns hstatus,
      reconnectProof_vouches hcmd' hruns' hstatus'] at hsame
    by_cases htext : reconnectText lib request = reconnectText lib request'
    · exact .inl (reconnectText_inj htext)
    · exact .inr ⟨htext,Digest.eq_of_bytes hsame⟩

theorem proofs_bind_challenges_twice :
    let p := RequestPool.run referenceLibrary ⟨0,600,false⟩ Replies.admitting.env .steady
      (.start logonRequest :: .start logonRequest ::
        (List.replicate 6 (.call 0) ++ List.replicate 6 (.call 1)))
      (Pool.start (LoginDatabase.verifying,()))
    ∃ r r', p.threads[0]? = some ⟨logonRequest,.ret r⟩ ∧
      p.threads[1]? = some ⟨logonRequest,.ret r'⟩ ∧
      (SameLogon referenceLibrary logonRequest logonRequest ∨
        Collision referenceLibrary logonRequest.session.login logonRequest.session.login ∨
        Collision referenceLibrary (logonText referenceLibrary logonRequest)
          (logonText referenceLibrary logonRequest)) := by
  intro p
  have hended : (p.ended 0).map (fun x => (x.1,x.2.2.status)) = some (logonRequest,.authed) ∧
      (p.ended 1).map (fun x => (x.1,x.2.2.status)) = some (logonRequest,.authed) := by
    decide +kernel
  obtain ⟨tag,r,hth,hr⟩ := Pool.ended_map hended.1
  obtain ⟨tag',r',hth',hr'⟩ := Pool.ended_map hended.2
  obtain ⟨rfl,hstatus⟩ : tag = _ ∧ r.2.status = _ := by simpa using hr
  obtain ⟨rfl,hstatus'⟩ : tag' = _ ∧ r'.2.status = _ := by simpa using hr'
  have h := proofs_bind_challenges referenceLibrary ⟨0,600,false⟩ Replies.admitting.env .steady
    LoginDatabase.verifying () _ p rfl 0 1 _ _ r r' hth hth' (by simp [hstatus])
    (by simp [hstatus'])
  exact ⟨r,r',hth,hth',h.1 rfl rfl rfl⟩

end Realmd
