/-
This file follows the answer to a removal of group members, and what a failure leaves of the group.
-/
import E2eeSecurity.Group.Create
import E2eeSecurity.Group.Handlers

namespace E2eeSecurity

structure RemoveGroupMembersResponse (β : Type) where
  code : ResponseCode
  removedGroupMemberList : List GroupMember
  groupMemberList : List GroupMember
  memberInfoList : List (GroupMemberInfo β)
  deriving DecidableEq

variable {β : Type}

def isValidRemoveGroupMembersResponse (response : RemoveGroupMembersResponse β) : Bool :=
  response.code == .ok && response.removedGroupMemberList.all isValidGroupMember &&
    response.groupMemberList.all isValidGroupMember &&
    response.memberInfoList.all isValidGroupMemberInfo

def userInGroup (userAddress : E2eeAddress) (groupMemberList : List GroupMember) : Bool :=
  groupMemberList.any (isSameUser userAddress)

/-- The old sessions are gone before the new outbound session is made.
The first result tells whether the call succeeds, and the last one is the bundle for the others. -/
def consumeRemoveGroupMembersResponse (getE2eesPack : Packs β) (device : Device β)
    (outbound : GroupSession β) (response : RemoveGroupMembersResponse β) (sessionId : String)
    (groupSeed : Bytes β) : Bool × GroupStore β × Option (GroupPreKeyBundle β) :=
  if isValidGroupSession getE2eesPack outbound && isValidRemoveGroupMembersResponse response then
    let unloaded := device.groups.unloadGroupSessionById outbound.sessionOwner outbound.sessionId
    if !response.groupMemberList.isEmpty &&
        userInGroup outbound.sessionOwner response.groupMemberList then
      match newOutboundGroupSessionBySender getE2eesPack { device with groups := unloaded }
          response.memberInfoList outbound.e2eesPackId outbound.sessionOwner
          outbound.groupInfo.groupName outbound.groupInfo.groupAddress response.groupMemberList
          outbound.sessionId sessionId groupSeed with
      | some (groups, bundle) => (true, groups, some bundle)
      | none => (false, unloaded, none)
    else (true, unloaded, none)
  else (false, device.groups, none)

section Outcome

variable {getE2eesPack : Packs β} {device : Device β} {outbound : GroupSession β}
  {response : RemoveGroupMembersResponse β}

/-- These are the checks of the new session that the answer and the old session do not imply. -/
def Renewable (device : Device β) (outbound : GroupSession β)
    (response : RemoveGroupMembersResponse β) : Prop :=
  (loadSenderSignPublicKey device.store outbound.sessionOwner).isSome = true ∧
    response.groupMemberList.length ≤ response.memberInfoList.length

/-- The new session is made exactly when the remaining checks pass. -/
theorem newOutboundGroupSessionBySender_isSome_iff (device : Device β) (groups : GroupStore β)
    (valid : isValidGroupSession getE2eesPack outbound = true)
    (responseValid : isValidRemoveGroupMembersResponse response = true)
    (nonempty : response.groupMemberList ≠ []) (sessionId : String) (groupSeed : Bytes β) :
    (newOutboundGroupSessionBySender getE2eesPack { device with groups := groups }
        response.memberInfoList outbound.e2eesPackId outbound.sessionOwner
        outbound.groupInfo.groupName outbound.groupInfo.groupAddress response.groupMemberList
        outbound.sessionId sessionId groupSeed).isSome = true ↔
      Renewable device outbound response := by
  simp only [isValidGroupSession, isValidGroupSessionHead, isValidE2eesPackId, isValidGroupInfo,
    Bool.and_eq_true] at valid
  simp only [isValidRemoveGroupMembersResponse, Bool.and_eq_true] at responseValid
  obtain ⟨⟨⟨⟨⟨⟨⟨-, pack⟩, -⟩, -⟩, owner⟩, ⟨name, address⟩, -⟩, -⟩, -⟩ := valid
  obtain ⟨cipherSuite, found, suite⟩ := (Option.any_eq_true _ _).mp pack
  rw [newOutboundGroupSessionBySender, Renewable, found]
  cases loaded : loadSenderSignPublicKey device.store outbound.sessionOwner with
  | none => simp
  | some identityPublicKey =>
      dsimp only
      by_cases enough : response.groupMemberList.length ≤ response.memberInfoList.length
      · have infos : response.memberInfoList ≠ [] := by
          have positive := List.length_pos_iff.mpr nonempty
          rw [← List.length_pos_iff]
          omega
        simp [suite, owner, name, address, responseValid, nonempty, infos, enough]
      · simp [enough]

/-- The old outbound session is among the sessions that are deleted. -/
theorem unloadGroupSessionById_ne (stored : outbound ∈ device.groups.entries) :
    device.groups.unloadGroupSessionById outbound.sessionOwner outbound.sessionId ≠
      device.groups := by
  intro same
  have kept : outbound ∈ (device.groups.unloadGroupSessionById outbound.sessionOwner
      outbound.sessionId).entries := by
    rw [same]
    exact stored
  have checked := (List.mem_filter.mp kept).2
  simp at checked

end Outcome

/-- A failure keeps the stored sessions unless it comes from a check of the new session. -/
theorem removeGroupMembersFailure_unchanged_iff (getE2eesPack : Packs β) (device : Device β)
    (outbound : GroupSession β) (response : RemoveGroupMembersResponse β) (sessionId : String)
    (groupSeed : Bytes β) (stored : outbound ∈ device.groups.entries)
    (valid : isValidGroupSession getE2eesPack outbound = true)
    (responseValid : isValidRemoveGroupMembersResponse response = true) :
    ((consumeRemoveGroupMembersResponse getE2eesPack device outbound response sessionId
          groupSeed).1 = false →
        (consumeRemoveGroupMembersResponse getE2eesPack device outbound response sessionId
          groupSeed).2.1 = device.groups) ↔
      (userInGroup outbound.sessionOwner response.groupMemberList = true →
        Renewable device outbound response) := by
  have changed := unloadGroupSessionById_ne stored
  unfold consumeRemoveGroupMembersResponse
  rw [valid, responseValid, Bool.and_self, if_pos rfl]
  by_cases listed : userInGroup outbound.sessionOwner response.groupMemberList = true
  · have nonempty : response.groupMemberList ≠ [] := by
      intro empty
      rw [empty] at listed
      cases listed
    have made := newOutboundGroupSessionBySender_isSome_iff device
      (device.groups.unloadGroupSessionById outbound.sessionOwner outbound.sessionId) valid
      responseValid nonempty sessionId groupSeed
    have checked : (!response.groupMemberList.isEmpty &&
        userInGroup outbound.sessionOwner response.groupMemberList) = true := by
      simp [nonempty, listed]
    dsimp only
    rw [if_pos checked, ← made]
    cases newOutboundGroupSessionBySender getE2eesPack _ _ _ _ _ _ _ _ _ _ with
    | none => simp [listed, changed]
    | some result => simp
  · have unlisted : ¬ (!response.groupMemberList.isEmpty &&
        userInGroup outbound.sessionOwner response.groupMemberList) = true := by
      simp [listed]
    dsimp only
    rw [if_neg unlisted]
    constructor
    · intro _ present
      exact absurd present listed
    · intro _ failed
      cases failed

namespace Symbolic

/-- Carol is removed, and the answer lists these devices. -/
def removalResponse (infos : List (GroupMemberInfo FreeTerm)) :
    RemoveGroupMembersResponse FreeTerm where
  code := .ok
  removedGroupMemberList := [⟨"carol", "domain", .member⟩]
  groupMemberList := [⟨"alice", "domain", .manager⟩, ⟨"bob", "domain", .member⟩]
  memberInfoList := infos

end Symbolic

theorem removeGroupMembersFailure_unchanged_complete :
    userInGroup Symbolic.aliceAddress (Symbolic.removalResponse
        [Symbolic.memberInfo Symbolic.aliceAddress,
          Symbolic.memberInfo Symbolic.bobAddress]).groupMemberList = true ∧
      ((consumeRemoveGroupMembersResponse (fun _ => some symbolicSuite)
          (Symbolic.memberDevice Symbolic.aliceAddress)
          (Symbolic.memberSession Symbolic.aliceAddress Symbolic.aliceAddress)
          (Symbolic.removalResponse [Symbolic.memberInfo Symbolic.aliceAddress,
            Symbolic.memberInfo Symbolic.bobAddress]) "next" []).1 = false →
        (consumeRemoveGroupMembersResponse (fun _ => some symbolicSuite)
          (Symbolic.memberDevice Symbolic.aliceAddress)
          (Symbolic.memberSession Symbolic.aliceAddress Symbolic.aliceAddress)
          (Symbolic.removalResponse [Symbolic.memberInfo Symbolic.aliceAddress,
            Symbolic.memberInfo Symbolic.bobAddress]) "next" []).2.1 =
          (Symbolic.memberDevice Symbolic.aliceAddress).groups) :=
  ⟨by decide, (removeGroupMembersFailure_unchanged_iff (fun _ => some symbolicSuite)
    (Symbolic.memberDevice Symbolic.aliceAddress)
    (Symbolic.memberSession Symbolic.aliceAddress Symbolic.aliceAddress)
    (Symbolic.removalResponse [Symbolic.memberInfo Symbolic.aliceAddress,
      Symbolic.memberInfo Symbolic.bobAddress]) "next" [] (by decide) (by decide)
    (by decide)).mpr fun _ => ⟨by decide, by decide⟩⟩

/-- An answer with two members and one device deletes the keys of the group and then fails. -/
theorem removeGroupMembersFailure_deletes :
    Symbolic.memberSession Symbolic.aliceAddress Symbolic.aliceAddress ∈
        (Symbolic.memberDevice Symbolic.aliceAddress).groups.entries ∧
      isValidGroupSession (fun _ => some symbolicSuite)
        (Symbolic.memberSession Symbolic.aliceAddress Symbolic.aliceAddress) = true ∧
      isValidRemoveGroupMembersResponse
        (Symbolic.removalResponse [Symbolic.memberInfo Symbolic.aliceAddress]) = true ∧
      (consumeRemoveGroupMembersResponse (fun _ => some symbolicSuite)
        (Symbolic.memberDevice Symbolic.aliceAddress)
        (Symbolic.memberSession Symbolic.aliceAddress Symbolic.aliceAddress)
        (Symbolic.removalResponse [Symbolic.memberInfo Symbolic.aliceAddress]) "next"
          []).1 = false ∧
      (consumeRemoveGroupMembersResponse (fun _ => some symbolicSuite)
        (Symbolic.memberDevice Symbolic.aliceAddress)
        (Symbolic.memberSession Symbolic.aliceAddress Symbolic.aliceAddress)
        (Symbolic.removalResponse [Symbolic.memberInfo Symbolic.aliceAddress]) "next"
          []).2.1.entries = [] ∧
      (Symbolic.memberDevice Symbolic.aliceAddress).groups.entries.length = 3 := by
  decide

end E2eeSecurity
