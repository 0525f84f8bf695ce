/-
This file gives the group sessions of `group_session.c` with their messages and their store.
-/
import E2eeSecurity.Library.KeyedTable
import E2eeSecurity.Ratchet.Keys
import E2eeSecurity.Session.Model

namespace E2eeSecurity

/-- The session is outbound when the sender is the owner, and inbound otherwise. -/
structure GroupSession (β : Type) where
  version : String
  e2eesPackId : UInt32
  sessionId : String
  sender : E2eeAddress
  sessionOwner : E2eeAddress
  groupInfo : GroupInfo
  sequence : UInt32
  groupSeed : Bytes β
  chainKey : Bytes β
  associatedData : Bytes β
  deriving DecidableEq

/-- An empty old session identifier stands for none. -/
structure GroupPreKeyBundle (β : Type) where
  version : String
  e2eesPackId : UInt32
  sessionId : String
  oldSessionId : String
  sender : E2eeAddress
  groupInfo : GroupInfo
  sequence : UInt32
  groupSeed : Bytes β
  deriving DecidableEq

structure GroupUpdateKeyBundle (β : Type) where
  version : String
  e2eesPackId : UInt32
  sessionId : String
  sender : E2eeAddress
  adding : Bool
  groupInfo : GroupInfo
  sequence : UInt32
  chainKey : Bytes β
  signPublicKey : Bytes β
  addingMemberInfoList : List (GroupMemberInfo β)
  deriving DecidableEq

structure CreateGroupMsg (β : Type) where
  e2eesPackId : UInt32
  senderAddress : E2eeAddress
  groupInfo : GroupInfo
  memberInfoList : List (GroupMemberInfo β)
  deriving DecidableEq

variable {β : Type}

section Store

/-- Group sessions are stored under these four values. -/
structure GroupKey where
  sessionId : String
  sender : E2eeAddress
  sessionOwner : E2eeAddress
  groupAddress : E2eeAddress
  deriving DecidableEq

def GroupSession.key (session : GroupSession β) : GroupKey :=
  ⟨session.sessionId, session.sender, session.sessionOwner, session.groupInfo.groupAddress⟩

/-- A session also replaces the version of it that has no identifier yet. -/
def groupSupersession : Supersession GroupKey where
  covers new old := old.sender = new.sender ∧ old.sessionOwner = new.sessionOwner ∧
    old.groupAddress = new.groupAddress ∧
      (old.sessionId = new.sessionId ∨ old.sessionId = "")
  refl := by simp

abbrev GroupStore (β : Type) := KeyedTable (@GroupSession.key β)

def GroupStore.storeGroupSession (groups : GroupStore β) (session : GroupSession β) :
    GroupStore β :=
  groups.insert groupSupersession session

/-- A call that fails stores nothing. -/
def GroupStore.storeResult (groups : GroupStore β) : Option (GroupSession β) → GroupStore β
  | some session => groups.storeGroupSession session
  | none => groups

/-- The outbound session of the owner is among the loaded sessions. -/
def GroupStore.loadGroupSessions (groups : GroupStore β)
    (sessionOwner groupAddress : E2eeAddress) : List (GroupSession β) :=
  groups.entries.filter fun session =>
    session.sessionOwner = sessionOwner ∧ session.groupInfo.groupAddress = groupAddress

def GroupStore.loadGroupSessionByAddress (groups : GroupStore β)
    (sender sessionOwner groupAddress : E2eeAddress) : Option (GroupSession β) :=
  groups.entries.find? fun session => session.sender = sender ∧
    session.sessionOwner = sessionOwner ∧ session.groupInfo.groupAddress = groupAddress

def GroupStore.loadGroupSessionById (groups : GroupStore β)
    (sender sessionOwner : E2eeAddress) (sessionId : String) : Option (GroupSession β) :=
  groups.entries.find? fun session => session.sender = sender ∧
    session.sessionOwner = sessionOwner ∧ session.sessionId = sessionId

def GroupStore.unloadGroupSessionById (groups : GroupStore β) (sessionOwner : E2eeAddress)
    (sessionId : String) : GroupStore β :=
  groups.restrict fun session =>
    !decide (session.sessionOwner = sessionOwner ∧ session.sessionId = sessionId)

/-- This is what one device keeps: its accounts and one-to-one sessions, and its group sessions. -/
structure Device (β : Type) where
  store : Store β
  groups : GroupStore β

end Store

section Validation

variable (getE2eesPack : Packs β)

def isValidGroupMember (member : GroupMember) : Bool :=
  isValidString member.userId && isValidString member.domain && member.role != .other

def isValidGroupInfo (groupInfo : GroupInfo) : Bool :=
  isValidString groupInfo.groupName && isValidAddress groupInfo.groupAddress &&
    groupInfo.groupMemberList.all isValidGroupMember

def isValidGroupMemberInfo (info : GroupMemberInfo β) : Bool :=
  isValidAddress info.memberAddress && isValidProtobuf info.signPublicKey

/-- Sessions without an identifier and a version also pass. -/
def isValidGroupSessionByMemberId (session : GroupSession β) : Bool :=
  isValidE2eesPackId getE2eesPack session.e2eesPackId && isValidAddress session.sender &&
    isValidAddress session.sessionOwner && isValidGroupInfo session.groupInfo &&
    isValidProtobuf session.associatedData

/-- The three checks below begin alike. -/
def isValidGroupSessionHead (session : GroupSession β) : Bool :=
  isValidString session.version && isValidE2eesPackId getE2eesPack session.e2eesPackId &&
    isValidString session.sessionId && isValidAddress session.sender &&
    isValidAddress session.sessionOwner && isValidGroupInfo session.groupInfo

def isValidGroupSessionByPreKeyBundle (session : GroupSession β) : Bool :=
  isValidGroupSessionHead getE2eesPack session && isValidProtobuf session.groupSeed

def isValidGroupSessionNoChainKey (session : GroupSession β) : Bool :=
  isValidGroupSessionHead getE2eesPack session && isValidProtobuf session.associatedData

def isValidGroupSession (session : GroupSession β) : Bool :=
  isValidGroupSessionHead getE2eesPack session && isValidProtobuf session.chainKey &&
    isValidProtobuf session.associatedData

def isValidGroupPreKeyBundle (bundle : GroupPreKeyBundle β) : Bool :=
  isValidString bundle.version && isValidE2eesPackId getE2eesPack bundle.e2eesPackId &&
    isValidString bundle.sessionId && isValidAddress bundle.sender &&
    isValidGroupInfo bundle.groupInfo && isValidProtobuf bundle.groupSeed

def isValidGroupUpdateKeyBundle (bundle : GroupUpdateKeyBundle β) : Bool :=
  isValidString bundle.version && isValidE2eesPackId getE2eesPack bundle.e2eesPackId &&
    isValidString bundle.sessionId && isValidAddress bundle.sender &&
    isValidGroupInfo bundle.groupInfo && isValidProtobuf bundle.chainKey &&
    isValidProtobuf bundle.signPublicKey && bundle.addingMemberInfoList.all isValidGroupMemberInfo

def isValidCreateGroupMsg (msg : CreateGroupMsg β) : Bool :=
  isValidE2eesPackId getE2eesPack msg.e2eesPackId && isValidAddress msg.senderAddress &&
    isValidGroupInfo msg.groupInfo && msg.memberInfoList.all isValidGroupMemberInfo

end Validation

section Keys

/-- This is the length of a group seed, `SEED_SECRET_LEN`. -/
def seedSecretLen : Nat := 32

/-- The first chain key of a sender hashes the seed and the signature key of the sender. -/
def CipherSuite.groupChainKey (cipherSuite : CipherSuite β) (groupSeed signPublicKey : Bytes β) :
    Bytes β :=
  cipherSuite.hf.hkdf
    (groupSeed.take seedSecretLen ++ signPublicKey.take cipherSuite.ds.signPubKeyLen)
    (cipherSuite.zeros cipherSuite.hf.hfLen) (cipherSuite.text "ROOT") cipherSuite.hf.hfLen

/-- The associated data repeats the signature key of the sender. -/
def CipherSuite.groupAssociatedData (cipherSuite : CipherSuite β) (signPublicKey : Bytes β) :
    Bytes β :=
  signPublicKey.take cipherSuite.ds.signPubKeyLen ++
    signPublicKey.take cipherSuite.ds.signPubKeyLen

/-- The associated data begins with the whole signature key. -/
theorem CipherSuite.take_groupAssociatedData (cipherSuite : CipherSuite β)
    {signPublicKey : Bytes β} (length : signPublicKey.length = cipherSuite.ds.signPubKeyLen) :
    (cipherSuite.groupAssociatedData signPublicKey).take cipherSuite.ds.signPubKeyLen =
      signPublicKey.take cipherSuite.ds.signPubKeyLen := by
  rw [CipherSuite.groupAssociatedData, List.take_append_of_le_length]
  · rw [List.take_take, Nat.min_self]
  · rw [List.length_take, length]
    exact Nat.le_of_eq (Nat.min_self _).symm

/-- A signature key that passes its check fills the associated data. -/
theorem groupAssociatedData_of_valid (cipherSuite : CipherSuite β) {signPublicKey : Bytes β}
    (valid : isValidProtobuf signPublicKey = true) :
    isValidProtobuf (cipherSuite.groupAssociatedData signPublicKey) = true := by
  have positive := cipherSuite.ds.signPubKeyLenPositive
  rw [isValidProtobuf_iff, ← List.length_pos_iff] at valid ⊢
  rw [CipherSuite.groupAssociatedData, List.length_append, List.length_take]
  omega

def advanceGroupChainKeyByWelcome (cipherSuite : CipherSuite β) (srcChainKey : Bytes β) :
    Bytes β :=
  cipherSuite.hf.hkdf srcChainKey (cipherSuite.text "welcome") [cipherSuite.byte 0x02]
    cipherSuite.hf.hfLen

/-- The last argument is the destination, whose length the copy keeps. -/
def advanceGroupChainKeyByAdd (cipherSuite : CipherSuite β) (srcChainKey destChainKey : Bytes β) :
    Bytes β :=
  overwriteProtobuf destChainKey (cipherSuite.hf.hkdf srcChainKey (cipherSuite.text "add")
    [cipherSuite.byte 0x02] cipherSuite.hf.hfLen)

/-- Each added device gets a welcome key, and the chain key of the sender moves on from there. -/
def welcomeAndAdd (cipherSuite : CipherSuite β) :
    List (GroupMemberInfo β) → Bytes β → List (Bytes β) × Bytes β
  | [], chainKey => ([], chainKey)
  | _ :: rest, chainKey =>
      let theirs := advanceGroupChainKeyByWelcome cipherSuite chainKey
      let walked := welcomeAndAdd cipherSuite rest
        (advanceGroupChainKeyByAdd cipherSuite theirs chainKey)
      (theirs :: walked.1, walked.2)

end Keys

section IdentityKeys

/-- The cached identity key comes first, and then the one of a stored account. -/
def loadSignPublicKey (store : Store β) (address : E2eeAddress) : Option (Bytes β) :=
  match store.cachedIdentityKey address with
  | some identityKey => some identityKey.signKeyPair.publicKey
  | none => ((store.account address).map fun account =>
      account.identityKey.signKeyPair.publicKey).filter isValidProtobuf

/-- A party that sends also needs its authorisation, which is only checked beside the cache. -/
def loadSenderSignPublicKey (store : Store β) (address : E2eeAddress) : Option (Bytes β) :=
  match store.cachedIdentityKey address with
  | some identityKey =>
      if isValidString (store.auth address) then some identityKey.signKeyPair.publicKey else none
  | none => loadSignPublicKey store address

end IdentityKeys

end E2eeSecurity
