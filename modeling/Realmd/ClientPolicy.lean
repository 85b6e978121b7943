import Realmd.ByteCodec
set_option autoImplicit false

namespace Realmd
open ByteCodec

inductive AuthResult where
  | success | failBanned | failUnknownAccount | failDbBusy | failVersionInvalid
  | failVersionUpdate | failSuspended | failLockedEnforced
  deriving DecidableEq, Repr

def AuthResult.code : AuthResult → UInt8
  | .success => 0x00
  | .failBanned => 0x03
  | .failUnknownAccount => 0x04
  | .failDbBusy => 0x08
  | .failVersionInvalid => 0x09
  | .failVersionUpdate => 0x0A
  | .failSuspended => 0x0C
  | .failLockedEnforced => 0x10

inductive RealmVersion where
  | vanilla | tbc | wotlk | cata | mop | wod | legion | bfa | shadowlands
  deriving DecidableEq, Repr

structure RealmBuildInfo where
  build : Nat
  major_version : Nat
  minor_version : Nat
  bugfix_version : Nat
  hotfix_version : UInt8
  deriving DecidableEq, Repr

structure ClientBuildPolicy where
  buildInfo : RealmBuildInfo
  realmVersion : RealmVersion
  deriving DecidableEq, Repr

/-- Hotfix 32 is a blank and 97 the letter `a`. -/
def supportedClientBuilds : List ClientBuildPolicy :=
  [⟨⟨40000,9,0,0,32⟩,.shadowlands⟩,
    ⟨⟨35662,8,3,7,32⟩,.bfa⟩,
    ⟨⟨26972,7,3,5,32⟩,.legion⟩,
    ⟨⟨21742,6,2,4,32⟩,.wod⟩,
    ⟨⟨18414,5,4,8,32⟩,.mop⟩,
    ⟨⟨18273,5,4,8,32⟩,.mop⟩,
    ⟨⟨15595,4,3,4,32⟩,.cata⟩,
    ⟨⟨12340,3,3,5,97⟩,.wotlk⟩,
    ⟨⟨8606,2,4,3,32⟩,.tbc⟩,
    ⟨⟨6141,1,12,3,32⟩,.vanilla⟩,
    ⟨⟨6005,1,12,2,32⟩,.vanilla⟩,
    ⟨⟨5875,1,12,1,32⟩,.vanilla⟩]

def findClientBuildPolicy (build : Nat) : Option ClientBuildPolicy :=
  supportedClientBuilds.find? (·.buildInfo.build == build)

def findBuildInfo (build : UInt16) : Option RealmBuildInfo :=
  (findClientBuildPolicy build.toNat).map (·.buildInfo)

def lockedAccountResultForBuild (build : Nat) : AuthResult :=
  match findClientBuildPolicy build with
  | none => .failDbBusy
  | some policy =>
      if policy.realmVersion = .vanilla then .failDbBusy else .failLockedEnforced

/-- The forced builds are a set: only membership is ever asked for. -/
structure PatchPolicy where
  enabled : Bool
  forcedBuilds : List UInt16
  deriving DecidableEq, Repr

def PatchPolicy.shouldPatch (policy : PatchPolicy) (build : UInt16) (supported : Bool) :
    Bool :=
  policy.enabled && (!supported || policy.forcedBuilds.contains build)

def isSpace (c : UInt8) : Bool := c == 32 || (9 ≤ c && c ≤ 13)

def isLower (c : UInt8) : Bool := 97 ≤ c && c ≤ 122
def isUpper (c : UInt8) : Bool := 65 ≤ c && c ≤ 90

def parseClientLocaleClaim (wireLocale : Bytes) : Option Bytes :=
  if wireLocale.length ≠ 4 then none
  else
    let locale := wireLocale.reverse
    if isLower (byteAt locale 0) && isLower (byteAt locale 1) &&
        isUpper (byteAt locale 2) && isUpper (byteAt locale 3) then
      some locale
    else none

end Realmd
