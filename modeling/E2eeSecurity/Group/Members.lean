/-
This file follows the member lists of a group through the functions of `mem_util.c` that remove,
compare and collect members.
-/
import E2eeSecurity.Library.Slots
import E2eeSecurity.Group.Handlers
import Mathlib.Data.Finset.Card
import Mathlib.Data.List.Perm.Subperm

namespace E2eeSecurity

/-- A member is one user of a domain, whatever its role is. -/
def GroupMember.identity (member : GroupMember) : String × String :=
  (member.userId, member.domain)

section Removing

/-- This is the group information while its member list is an array in memory. -/
structure GroupInfoSlots where
  groupName : String
  groupAddress : E2eeAddress
  nGroupMemberList : Nat
  groupMemberList : Slots GroupMember

/-- The cursor is at the rest of the removing list, and `position` counts the copied members. -/
def copyRemaining : List GroupMember → List GroupMember → Nat → Slots GroupMember →
    Option (Slots GroupMember)
  | [], _, _, slots => some slots
  | member :: rest, [], position, slots =>
      (slots.write position member).bind (copyRemaining rest [] (position + 1))
  | member :: rest, removing :: others, position, slots =>
      if member.role ≠ removing.role ∨ member.userId ≠ removing.userId ∨
          member.domain ≠ removing.domain then
        (slots.write position member).bind (copyRemaining rest (removing :: others) (position + 1))
      else copyRemaining rest others position slots

/-- No result stands for a write behind the new array.
Its length is the difference of the two numbers, which does not wrap for removed members that all
occur once. -/
def removeGroupMembersFromGroupInfo (oldGroupInfo : GroupInfo)
    (removingMemberList : List GroupMember) : Option GroupInfoSlots :=
  let newGroupMembersNum := oldGroupInfo.groupMemberList.length - removingMemberList.length
  (copyRemaining oldGroupInfo.groupMemberList removingMemberList 0
    (Slots.malloc GroupMember newGroupMembersNum)).map fun slots =>
      ⟨oldGroupInfo.groupName, oldGroupInfo.groupAddress, newGroupMembersNum, slots⟩

/-- These are the members that the walk copies. -/
def keptMembers : List GroupMember → List GroupMember → List GroupMember
  | [], _ => []
  | member :: rest, [] => member :: keptMembers rest []
  | member :: rest, removing :: others =>
      if member = removing then keptMembers rest others
      else member :: keptMembers rest (removing :: others)

theorem copyRemaining_eq_fill (members removing : List GroupMember) (position : Nat)
    (slots : Slots GroupMember) :
    copyRemaining members removing position slots =
      slots.fill position (keptMembers members removing) := by
  induction members generalizing removing position slots with
  | nil => cases removing <;> rfl
  | cons member rest ih =>
      cases removing with
      | nil =>
          rw [copyRemaining, keptMembers, Slots.fill]
          congr 1
          funext written
          exact ih [] (position + 1) written
      | cons removed others =>
          have differs : (member.role ≠ removed.role ∨ member.userId ≠ removed.userId ∨
              member.domain ≠ removed.domain) ↔ member ≠ removed := by
            cases member
            cases removed
            simp only [ne_eq, GroupMember.mk.injEq]
            tauto
          rw [copyRemaining, keptMembers]
          by_cases same : member = removed
          · rw [if_neg (fun differ => differs.mp differ same), if_pos same]
            exact ih others position slots
          · rw [if_pos (differs.mpr same), if_neg same, Slots.fill]
            congr 1
            funext written
            exact ih (removed :: others) (position + 1) written

theorem keptMembers_nil (members : List GroupMember) : keptMembers members [] = members := by
  induction members with
  | nil => rfl
  | cons member rest ih => rw [keptMembers, ih]

/-- Too few members are dropped unless the removing list is found in order. -/
theorem keptMembers_length_iff (members removing : List GroupMember) :
    (removing.Sublist members ∧
        (keptMembers members removing).length + removing.length = members.length) ∨
      (¬ removing.Sublist members ∧
        members.length < (keptMembers members removing).length + removing.length) := by
  induction members generalizing removing with
  | nil =>
      cases removing with
      | nil => exact Or.inl ⟨List.Sublist.refl [], rfl⟩
      | cons removed others => exact Or.inr ⟨by simp, by simp [keptMembers]⟩
  | cons member rest ih =>
      cases removing with
      | nil => exact Or.inl ⟨List.nil_sublist _, by rw [keptMembers_nil]; rfl⟩
      | cons removed others =>
          rw [keptMembers]
          by_cases same : member = removed
          · subst same
            rw [if_pos rfl, List.cons_sublist_cons, List.length_cons, List.length_cons]
            obtain ⟨found, length⟩ | ⟨missed, length⟩ := ih others
            · exact Or.inl ⟨found, by omega⟩
            · exact Or.inr ⟨missed, by omega⟩
          · have moved : (removed :: others).Sublist (member :: rest) ↔
                (removed :: others).Sublist rest := by
              rw [List.sublist_cons_iff]
              constructor
              · rintro (found | ⟨tail, begins, -⟩)
                · exact found
                · exact absurd (List.cons.inj begins).1.symm same
              · exact Or.inl
            rw [if_neg same, moved, List.length_cons, List.length_cons]
            obtain ⟨found, length⟩ | ⟨missed, length⟩ := ih (removed :: others)
            · exact Or.inl ⟨found, by rw [List.length_cons] at length ⊢; omega⟩
            · exact Or.inr ⟨missed, by rw [List.length_cons] at length ⊢; omega⟩

/-- These are the members whose user is not to be removed, in their old order. -/
def remainingMembers (members removing : List GroupMember) : List GroupMember :=
  members.filter fun member => !decide (member.identity ∈ removing.map GroupMember.identity)

theorem keptMembers_remaining {members removing : List GroupMember}
    (distinct : (members.map GroupMember.identity).Nodup) (found : removing.Sublist members) :
    keptMembers members removing = remainingMembers members removing := by
  induction members generalizing removing with
  | nil => cases removing <;> rfl
  | cons member rest ih =>
      rw [List.map_cons, List.nodup_cons] at distinct
      cases removing with
      | nil =>
          rw [keptMembers_nil, remainingMembers]
          simp
      | cons removed others =>
          rw [keptMembers, remainingMembers, List.filter_cons]
          by_cases same : member = removed
          · subst same
            rw [List.cons_sublist_cons] at found
            rw [if_pos rfl, if_neg (by simp), ih distinct.2 found, remainingMembers]
            apply List.filter_congr
            intro other listed
            have differ : other.identity ≠ member.identity := by
              intro equal
              apply distinct.1
              rw [← equal]
              exact List.mem_map_of_mem listed
            simp [differ]
          · have later : (removed :: others).Sublist rest := by
              rw [List.sublist_cons_iff] at found
              obtain found | ⟨tail, begins, -⟩ := found
              · exact found
              · exact absurd (List.cons.inj begins).1.symm same
            have stays : member.identity ∉ (removed :: others).map GroupMember.identity := by
              intro listed
              exact distinct.1 ((later.map GroupMember.identity).subset listed)
            rw [if_neg same, if_pos (by simpa using stays), ih distinct.2 later]
            rfl

/-- The result lists exactly the members that stay, and every slot of it is written. -/
def RemovesExactly (oldGroupInfo : GroupInfo) (removingMemberList : List GroupMember) : Prop :=
  ∃ result, removeGroupMembersFromGroupInfo oldGroupInfo removingMemberList = some result ∧
    result.groupName = oldGroupInfo.groupName ∧
    result.groupAddress = oldGroupInfo.groupAddress ∧
    result.groupMemberList =
      (remainingMembers oldGroupInfo.groupMemberList removingMemberList).map some ∧
    result.nGroupMemberList =
      (remainingMembers oldGroupInfo.groupMemberList removingMemberList).length

/-- The walk needs the removed members with the roles and in the order of the group. -/
theorem removeGroupMembersFromGroupInfo_exact_iff (oldGroupInfo : GroupInfo)
    (removingMemberList : List GroupMember)
    (distinct : (oldGroupInfo.groupMemberList.map GroupMember.identity).Nodup)
    (removingDistinct : (removingMemberList.map GroupMember.identity).Nodup)
    (present : ∀ member ∈ removingMemberList,
      member.identity ∈ oldGroupInfo.groupMemberList.map GroupMember.identity) :
    RemovesExactly oldGroupInfo removingMemberList ↔
      removingMemberList.Sublist oldGroupInfo.groupMemberList := by
  have smaller : removingMemberList.length ≤ oldGroupInfo.groupMemberList.length := by
    have within : removingMemberList.map GroupMember.identity ⊆
        oldGroupInfo.groupMemberList.map GroupMember.identity := by
      intro identity listed
      obtain ⟨member, removing, rfl⟩ := List.mem_map.mp listed
      exact present member removing
    have bound := (List.subperm_of_subset removingDistinct within).length_le
    rwa [List.length_map, List.length_map] at bound
  have written := Slots.fill_partly (keptMembers oldGroupInfo.groupMemberList removingMemberList)
    [] (oldGroupInfo.groupMemberList.length - removingMemberList.length)
  rw [Slots.partly_nil, List.length_nil, List.nil_append] at written
  rw [RemovesExactly, removeGroupMembersFromGroupInfo, copyRemaining_eq_fill, written]
  obtain ⟨found, length⟩ | ⟨missed, length⟩ :=
    keptMembers_length_iff oldGroupInfo.groupMemberList removingMemberList
  · have kept := keptMembers_remaining distinct found
    rw [kept] at length
    rw [kept, if_pos (by omega)]
    have full : oldGroupInfo.groupMemberList.length - removingMemberList.length -
        (remainingMembers oldGroupInfo.groupMemberList removingMemberList).length = 0 := by
      omega
    rw [full, Slots.partly_zero]
    refine ⟨fun _ => found, fun _ => ⟨_, rfl, rfl, rfl, rfl, ?_⟩⟩
    show oldGroupInfo.groupMemberList.length - removingMemberList.length = _
    omega
  · rw [if_neg (by omega)]
    constructor
    · rintro ⟨result, made, -⟩
      simp at made
    · intro found
      exact absurd found missed

/-- A group with a manager and a member. -/
def sampleGroupInfo : GroupInfo where
  groupName := "group"
  groupAddress := ⟨"domain", .group "id"⟩
  groupMemberList := [⟨"alice", "domain", .manager⟩, ⟨"bob", "domain", .member⟩]

theorem removeGroupMembersFromGroupInfo_exact_member :
    RemovesExactly sampleGroupInfo [⟨"bob", "domain", .member⟩] :=
  (removeGroupMembersFromGroupInfo_exact_iff sampleGroupInfo [⟨"bob", "domain", .member⟩]
    (by decide) (by decide) (by decide)).mpr (by decide)

/-- A manager leaves with the role of a member, and the copy runs behind the new array. -/
theorem removeGroupMembersFromGroupInfo_leaving_manager :
    ¬ ∀ (oldGroupInfo : GroupInfo) (removingMemberList : List GroupMember),
      (oldGroupInfo.groupMemberList.map GroupMember.identity).Nodup →
      (removingMemberList.map GroupMember.identity).Nodup →
      (∀ member ∈ removingMemberList,
        member.identity ∈ oldGroupInfo.groupMemberList.map GroupMember.identity) →
      RemovesExactly oldGroupInfo removingMemberList := by
  intro claimed
  obtain ⟨result, made, -⟩ := claimed sampleGroupInfo [⟨"alice", "domain", .member⟩]
    (by decide) (by decide) (by decide)
  have outside : removeGroupMembersFromGroupInfo sampleGroupInfo
      [⟨"alice", "domain", .member⟩] = none := rfl
  rw [outside] at made
  cases made

end Removing

section Comparing

/-- Both lists have the same users, in whatever order. -/
def SameMembers (members others : List GroupMember) : Prop :=
  ∀ identity, identity ∈ members.map GroupMember.identity ↔
    identity ∈ others.map GroupMember.identity

/-- Lists of one length differ in the last member of the first list, and in no member before it. -/
def OnlyLastMissing (members others : List GroupMember) : Prop :=
  members.length = others.length ∧ ∃ front last, members = front ++ [last] ∧
    (∀ member ∈ front, member.identity ∈ others.map GroupMember.identity) ∧
    last.identity ∉ others.map GroupMember.identity

theorem listed_iff (member : GroupMember) (others : List GroupMember) :
    (others.any fun other => member.userId = other.userId ∧ member.domain = other.domain) = true ↔
      member.identity ∈ others.map GroupMember.identity := by
  rw [List.any_eq_true, List.mem_map]
  constructor
  · rintro ⟨other, listed, same⟩
    rw [decide_eq_true_eq] at same
    exact ⟨other, listed, Prod.ext same.1.symm same.2.symm⟩
  · rintro ⟨other, listed, same⟩
    rw [GroupMember.identity, GroupMember.identity, Prod.mk.injEq] at same
    exact ⟨other, listed, decide_eq_true ⟨same.1.symm, same.2.symm⟩⟩

/-- The search for the last member is never looked at. -/
theorem compareMembersFrom_append (others front : List GroupMember) (last : GroupMember)
    (matched : Bool) :
    compareMembersFrom others matched (front ++ [last]) = true ↔
      matched = true ∧ ∀ member ∈ front, member.identity ∈ others.map GroupMember.identity := by
  induction front generalizing matched with
  | nil => simp [compareMembersFrom]
  | cons member rest ih =>
      rw [List.cons_append, compareMembersFrom, Bool.and_eq_true, ih, listed_iff,
        List.forall_mem_cons]

/-- Duplicate-free lists of one length are the same once one contains the other. -/
theorem sameMembers_iff_subset {members others : List GroupMember}
    (distinct : (members.map GroupMember.identity).Nodup)
    (length : members.length = others.length) :
    SameMembers members others ↔
      ∀ member ∈ members, member.identity ∈ others.map GroupMember.identity := by
  constructor
  · intro same member listed
    exact (same member.identity).mp (List.mem_map_of_mem listed)
  · intro within
    have subset : members.map GroupMember.identity ⊆ others.map GroupMember.identity := by
      intro identity listed
      obtain ⟨member, present, rfl⟩ := List.mem_map.mp listed
      exact within member present
    have permuted : (members.map GroupMember.identity).Perm (others.map GroupMember.identity) := by
      apply (List.subperm_of_subset distinct subset).perm_of_length_le
      rw [List.length_map, List.length_map]
      omega
    intro identity
    exact permuted.mem_iff

/-- Lists without duplicates that have the same users have one length. -/
theorem SameMembers.length_eq {members others : List GroupMember}
    (same : SameMembers members others)
    (distinct : (members.map GroupMember.identity).Nodup)
    (othersDistinct : (others.map GroupMember.identity).Nodup) :
    members.length = others.length := by
  have permuted := (List.perm_ext_iff_of_nodup distinct othersDistinct).mpr same
  have length := permuted.length_eq
  rwa [List.length_map, List.length_map] at length

/-- The comparison is right unless only the last member of the first list is missing. -/
theorem compareGroupMember_decides_iff (members others : List GroupMember)
    (distinct : (members.map GroupMember.identity).Nodup)
    (othersDistinct : (others.map GroupMember.identity).Nodup) :
    (compareGroupMember members others = true ↔ SameMembers members others) ↔
      ¬ OnlyLastMissing members others := by
  by_cases length : members.length = others.length
  case neg =>
    have differ : ¬ SameMembers members others := by
      intro same
      exact length (same.length_eq distinct othersDistinct)
    have rejected : compareGroupMember members others ≠ true := by
      simp [compareGroupMember, length]
    exact ⟨fun _ missing => length missing.1,
      fun _ => ⟨fun accepted => absurd accepted rejected, fun same => absurd same differ⟩⟩
  case pos =>
    rw [compareGroupMember, length, beq_self_eq_true, Bool.true_and,
      sameMembers_iff_subset distinct length]
    induction members using List.reverseRecOn with
    | nil =>
        have accepted : compareMembersFrom others true [] = true := rfl
        constructor
        · rintro - ⟨-, front, last, whole, -⟩
          simp at whole
        · intro
          simp [accepted]
    | append_singleton front last =>
        rw [compareMembersFrom_append, List.forall_mem_append, List.forall_mem_singleton]
        constructor
        · rintro decided ⟨-, otherFront, otherLast, whole, listed, missing⟩
          obtain ⟨rfl, ends⟩ := List.append_inj' whole rfl
          rw [List.singleton_inj] at ends
          subst ends
          exact missing (decided.mp ⟨rfl, listed⟩).2
        · intro fine
          constructor
          · rintro ⟨-, listed⟩
            refine ⟨listed, ?_⟩
            by_contra missing
            exact fine ⟨length, front, last, rfl, listed, missing⟩
          · rintro ⟨listed, -⟩
            exact ⟨rfl, listed⟩

theorem compareGroupMember_decides_first_missing :
    compareGroupMember [⟨"alice", "domain", .member⟩, ⟨"bob", "domain", .member⟩]
        [⟨"bob", "domain", .manager⟩, ⟨"carol", "domain", .member⟩] = true ↔
      SameMembers [⟨"alice", "domain", .member⟩, ⟨"bob", "domain", .member⟩]
        [⟨"bob", "domain", .manager⟩, ⟨"carol", "domain", .member⟩] := by
  apply (compareGroupMember_decides_iff _ _ (by decide) (by decide)).mpr
  rintro ⟨-, front, last, whole, -, missing⟩
  have ends : last = ⟨"bob", "domain", .member⟩ := by
    have shown := congrArg List.getLast? whole
    rw [List.getLast?_append] at shown
    simpa using shown.symm
  subst ends
  exact missing (by decide)

/-- Replacing the last of two members goes unnoticed. -/
theorem compareGroupMember_last_replaced :
    ¬ ∀ members others : List GroupMember,
      (members.map GroupMember.identity).Nodup → (others.map GroupMember.identity).Nodup →
      (compareGroupMember members others = true ↔ SameMembers members others) := by
  intro claimed
  have same := (claimed [⟨"alice", "domain", .member⟩, ⟨"bob", "domain", .member⟩]
    [⟨"alice", "domain", .member⟩, ⟨"carol", "domain", .member⟩] (by decide) (by decide)).mp
    (by decide) ("bob", "domain")
  revert same
  decide

end Comparing

section Collecting

variable {β : Type}

def compareUserId (address : E2eeAddress) (userId domain : String) : Bool :=
  address.domain == domain && address.userId == some userId

/-- The members are collected from the users of the devices. -/
def memberInfoToGroupMember (initRole : GroupRole) (memberInfo : GroupMemberInfo β) :
    Option GroupMember :=
  memberInfo.memberAddress.userId.map fun userId =>
    ⟨userId, memberInfo.memberAddress.domain, initRole⟩

/-- The search stops at the first information of the same user. -/
def scanInfos (address : E2eeAddress) : List (GroupMemberInfo β) → Option Bool
  | [] => some false
  | scan :: rest =>
      scan.memberAddress.userId.bind fun userId =>
        if compareUserId address userId scan.memberAddress.domain then some true
        else scanInfos address rest

/-- The first pass counts each information that no earlier one repeats. -/
def countUsers : List (GroupMemberInfo β) → List (GroupMemberInfo β) → Option Nat
  | _, [] => some 0
  | earlier, info :: rest =>
      (scanInfos info.memberAddress earlier).bind fun exist =>
        (countUsers (earlier ++ [info]) rest).map fun count => if exist then count else count + 1

/-- The first information is counted without a search. -/
def destNum : List (GroupMemberInfo β) → Option Nat
  | [] => some 0
  | first :: rest => (countUsers [first] rest).map fun count => 1 + count

/-- The search reads the slots that are written so far. -/
def scanSlots (address : E2eeAddress) : Slots GroupMember → Option Bool
  | [] => some false
  | none :: _ => none
  | some scan :: rest =>
      if compareUserId address scan.userId scan.domain then some true else scanSlots address rest

/-- The role is the one of the first entry for the user. -/
def memberRole (initRole : GroupRole) (memberList : List GroupMember) (address : E2eeAddress) :
    GroupRole :=
  ((memberList.find? fun scan => compareUserId address scan.userId scan.domain).map
    fun scan => scan.role).getD initRole

/-- The second pass fills the next slot with each user that is not in the slots before it. -/
def collectMembers (initRole : GroupRole) (memberList : List GroupMember) :
    List (GroupMemberInfo β) → Nat → Slots GroupMember → Option (Nat × Slots GroupMember)
  | [], filled, dest => some (filled, dest)
  | info :: rest, filled, dest =>
      (scanSlots info.memberAddress (dest.take filled)).bind fun exist =>
        if exist then collectMembers initRole memberList rest filled dest
        else (memberInfoToGroupMember initRole info).bind fun groupMember =>
          (dest.write filled { groupMember with
            role := memberRole initRole memberList info.memberAddress }).bind fun dest =>
              collectMembers initRole memberList rest (filled + 1) dest

/-- The result is the returned count, the number of filled slots and the array. -/
def memberInfoToGroupMembers (initRole : GroupRole) (memberInfoList : List (GroupMemberInfo β))
    (memberList : List GroupMember) : Option (Nat × Nat × Slots GroupMember) :=
  (destNum memberInfoList).bind fun destNum =>
    (collectMembers initRole memberList memberInfoList 0
      (Slots.malloc GroupMember destNum)).map fun collected =>
        (destNum, collected.1, collected.2)

/-- This is the user of a device. -/
def GroupMemberInfo.identity (info : GroupMemberInfo β) : String × String :=
  (info.memberAddress.userId.getD "", info.memberAddress.domain)

/-- The member that is collected for a user takes its role from the member list. -/
def collectedMember (initRole : GroupRole) (memberList : List GroupMember)
    (identity : String × String) : GroupMember where
  userId := identity.1
  domain := identity.2
  role := ((memberList.find? fun scan => scan.identity = identity).map
    fun scan => scan.role).getD initRole

/-- Each user is listed once, where it first occurs. -/
def collectedMembers (initRole : GroupRole) (memberList : List GroupMember)
    (identities : List (String × String)) : List GroupMember :=
  identities.eraseDups.map (collectedMember initRole memberList)

section FirstOccurrences

variable {α : Type} [BEq α] [LawfulBEq α]

theorem eraseDups_concat_repeated {earlier : List α} {value : α} (repeated : value ∈ earlier) :
    (earlier ++ [value]).eraseDups = earlier.eraseDups := by
  rw [List.eraseDups_append]
  simp [List.removeAll, repeated]

theorem eraseDups_concat_fresh {earlier : List α} {value : α} (fresh : value ∉ earlier) :
    (earlier ++ [value]).eraseDups = earlier.eraseDups ++ [value] := by
  rw [List.eraseDups_append]
  simp [List.removeAll, fresh, List.eraseDups_cons]

theorem nodup_eraseDups (values : List α) : values.eraseDups.Nodup := by
  induction values using List.reverseRecOn with
  | nil => exact List.nodup_nil
  | append_singleton earlier value ih =>
      by_cases repeated : value ∈ earlier
      · rw [eraseDups_concat_repeated repeated]
        exact ih
      · rw [eraseDups_concat_fresh repeated, List.nodup_append]
        refine ⟨ih, List.nodup_singleton value, ?_⟩
        intro other listed last ends same
        apply repeated
        rw [← List.mem_singleton.mp ends, ← same]
        exact List.mem_eraseDups.mp listed

theorem length_eraseDups [DecidableEq α] (values : List α) :
    values.eraseDups.length = values.toFinset.card := by
  rw [← List.toFinset_card_of_nodup (nodup_eraseDups values)]
  congr 1
  ext value
  rw [List.mem_toFinset, List.mem_toFinset, List.mem_eraseDups]

theorem length_eraseDups_le (earlier later : List α) :
    earlier.eraseDups.length ≤ (earlier ++ later).eraseDups.length := by
  rw [List.eraseDups_append, List.length_append]
  omega

end FirstOccurrences

section Passes

variable {info : GroupMemberInfo β} {initRole : GroupRole} {memberList : List GroupMember}

theorem userId_eq_identity (named : info.memberAddress.userId ≠ none) :
    info.memberAddress.userId = some info.identity.1 := by
  obtain ⟨userId, found⟩ := Option.ne_none_iff_exists'.mp named
  rw [GroupMemberInfo.identity, found]
  rfl

theorem compareUserId_identity (named : info.memberAddress.userId ≠ none)
    (userId domain : String) :
    compareUserId info.memberAddress userId domain = decide ((userId, domain) = info.identity) := by
  rw [compareUserId, userId_eq_identity named, GroupMemberInfo.identity]
  apply Bool.eq_iff_iff.mpr
  rw [Bool.and_eq_true, beq_iff_eq, beq_iff_eq, decide_eq_true_eq, Option.some.injEq,
    Prod.mk.injEq]
  constructor
  · rintro ⟨domains, users⟩
    exact ⟨users.symm, domains.symm⟩
  · rintro ⟨users, domains⟩
    exact ⟨domains.symm, users.symm⟩

theorem scanInfos_eq (named : info.memberAddress.userId ≠ none)
    (earlier : List (GroupMemberInfo β))
    (users : ∀ other ∈ earlier, other.memberAddress.userId ≠ none) :
    scanInfos info.memberAddress earlier =
      some (decide (info.identity ∈ earlier.map GroupMemberInfo.identity)) := by
  induction earlier with
  | nil => simp [scanInfos]
  | cons scan rest ih =>
      rw [List.forall_mem_cons] at users
      have pair : (scan.identity.1, scan.memberAddress.domain) = scan.identity := rfl
      rw [scanInfos, userId_eq_identity users.1, Option.bind_some, compareUserId_identity named,
        pair, ih users.2]
      by_cases same : scan.identity = info.identity
      · simp [same]
      · simp [same, Ne.symm same]

/-- The first pass counts the users that did not occur before. -/
theorem countUsers_eq (earlier rest : List (GroupMemberInfo β))
    (users : ∀ other ∈ earlier ++ rest, other.memberAddress.userId ≠ none) :
    ∃ count, countUsers earlier rest = some count ∧
      count + (earlier.map GroupMemberInfo.identity).eraseDups.length =
        ((earlier ++ rest).map GroupMemberInfo.identity).eraseDups.length := by
  induction rest generalizing earlier with
  | nil => exact ⟨0, rfl, by rw [List.append_nil, Nat.zero_add]⟩
  | cons info rest ih =>
      rw [List.append_cons] at users ⊢
      obtain ⟨count, counted, sum⟩ := ih (earlier ++ [info]) users
      have named : info.memberAddress.userId ≠ none := users info (by simp)
      have scanned := scanInfos_eq named earlier
        fun other listed => users other (by simp [listed])
      rw [List.map_append, List.map_singleton] at sum
      rw [countUsers, scanned, Option.bind_some, counted, Option.map_some]
      refine ⟨_, rfl, ?_⟩
      by_cases repeated : info.identity ∈ earlier.map GroupMemberInfo.identity
      · rw [eraseDups_concat_repeated repeated] at sum
        rw [if_pos (decide_eq_true repeated)]
        exact sum
      · rw [eraseDups_concat_fresh repeated, List.length_append, List.length_singleton] at sum
        rw [if_neg (by simpa using repeated)]
        omega

theorem destNum_eq {infos : List (GroupMemberInfo β)}
    (users : ∀ info ∈ infos, info.memberAddress.userId ≠ none) :
    destNum infos = some (infos.map GroupMemberInfo.identity).eraseDups.length := by
  cases infos with
  | nil => rfl
  | cons first rest =>
      obtain ⟨count, counted, sum⟩ := countUsers_eq [first] rest users
      rw [destNum, counted, Option.map_some, Option.some.injEq]
      rw [List.singleton_append, List.map_singleton] at sum
      rw [← sum]
      simp [List.eraseDups_cons, Nat.add_comm]

/-- The slots that are written so far are searched by user. -/
theorem scanSlots_eq (named : info.memberAddress.userId ≠ none) (members : List GroupMember) :
    scanSlots info.memberAddress (members.map some) =
      some (decide (info.identity ∈ members.map GroupMember.identity)) := by
  induction members with
  | nil => simp [scanSlots]
  | cons member rest ih =>
      have pair : (member.userId, member.domain) = member.identity := rfl
      rw [List.map_cons, scanSlots, compareUserId_identity named, pair, ih]
      by_cases same : member.identity = info.identity
      · simp [same]
      · simp [same, Ne.symm same]

theorem memberRole_eq (named : info.memberAddress.userId ≠ none) :
    memberRole initRole memberList info.memberAddress =
      (collectedMember initRole memberList info.identity).role := by
  rw [memberRole, collectedMember]
  congr 3
  funext scan
  exact compareUserId_identity named scan.userId scan.domain

theorem identity_collectedMembers (identities : List (String × String)) :
    (collectedMembers initRole memberList identities).map GroupMember.identity =
      identities.eraseDups := by
  rw [collectedMembers, List.map_map]
  exact List.map_id identities.eraseDups

theorem length_collectedMembers (identities : List (String × String)) :
    (collectedMembers initRole memberList identities).length = identities.eraseDups.length := by
  rw [collectedMembers, List.length_map]

theorem written_collectedMembers (identities : List (String × String)) (free : Nat) :
    (Slots.partly (collectedMembers initRole memberList identities) free).take
        identities.eraseDups.length =
      (collectedMembers initRole memberList identities).map some := by
  apply List.take_left'
  rw [List.length_map, length_collectedMembers]

/-- The second pass skips an info whose user is written already. -/
theorem collectMembers_repeated {info : GroupMemberInfo β} {earlier : List (GroupMemberInfo β)}
    (named : info.memberAddress.userId ≠ none)
    (repeated : info.identity ∈ earlier.map GroupMemberInfo.identity)
    (rest : List (GroupMemberInfo β)) (free : Nat) :
    collectMembers initRole memberList (info :: rest)
        (earlier.map GroupMemberInfo.identity).eraseDups.length
        (Slots.partly (collectedMembers initRole memberList
          (earlier.map GroupMemberInfo.identity)) free) =
      collectMembers initRole memberList rest
        ((earlier ++ [info]).map GroupMemberInfo.identity).eraseDups.length
        (Slots.partly (collectedMembers initRole memberList
          ((earlier ++ [info]).map GroupMemberInfo.identity)) free) := by
  have same : ((earlier ++ [info]).map GroupMemberInfo.identity).eraseDups =
      (earlier.map GroupMemberInfo.identity).eraseDups := by
    rw [List.map_append, List.map_singleton, eraseDups_concat_repeated repeated]
  have sameMembers : collectedMembers initRole memberList
      ((earlier ++ [info]).map GroupMemberInfo.identity) =
        collectedMembers initRole memberList (earlier.map GroupMemberInfo.identity) := by
    rw [collectedMembers, same, collectedMembers]
  rw [collectMembers, written_collectedMembers, scanSlots_eq named, identity_collectedMembers,
    Option.bind_some, if_pos (decide_eq_true (List.mem_eraseDups.mpr repeated)), same, sameMembers]

/-- The second pass writes a new user into the first free slot. -/
theorem collectMembers_fresh {info : GroupMemberInfo β} {earlier : List (GroupMemberInfo β)}
    (named : info.memberAddress.userId ≠ none)
    (fresh : info.identity ∉ earlier.map GroupMemberInfo.identity)
    (rest : List (GroupMemberInfo β)) (free : Nat) :
    collectMembers initRole memberList (info :: rest)
        (earlier.map GroupMemberInfo.identity).eraseDups.length
        (Slots.partly (collectedMembers initRole memberList
          (earlier.map GroupMemberInfo.identity)) (free + 1)) =
      collectMembers initRole memberList rest
        ((earlier ++ [info]).map GroupMemberInfo.identity).eraseDups.length
        (Slots.partly (collectedMembers initRole memberList
          ((earlier ++ [info]).map GroupMemberInfo.identity)) free) := by
  have more : ((earlier ++ [info]).map GroupMemberInfo.identity).eraseDups =
      (earlier.map GroupMemberInfo.identity).eraseDups ++ [info.identity] := by
    rw [List.map_append, List.map_singleton, eraseDups_concat_fresh fresh]
  have moreMembers : collectedMembers initRole memberList
      ((earlier ++ [info]).map GroupMemberInfo.identity) =
        collectedMembers initRole memberList (earlier.map GroupMemberInfo.identity) ++
          [collectedMember initRole memberList info.identity] := by
    rw [collectedMembers, more, List.map_append, List.map_singleton, collectedMembers]
  have unseen : decide (info.identity ∈
      (earlier.map GroupMemberInfo.identity).eraseDups) ≠ true := by
    simpa using fresh
  have written := Slots.write_partly (collectedMembers initRole memberList
    (earlier.map GroupMemberInfo.identity)) free
    (collectedMember initRole memberList info.identity)
  rw [length_collectedMembers] at written
  rw [collectMembers, written_collectedMembers, scanSlots_eq named, identity_collectedMembers,
    Option.bind_some, if_neg unseen, memberInfoToGroupMember, userId_eq_identity named,
    Option.map_some, Option.bind_some, memberRole_eq named]
  show ((Slots.partly _ (free + 1)).write _
    (collectedMember initRole memberList info.identity)).bind _ = _
  rw [written, Option.bind_some, moreMembers, more, List.length_append, List.length_singleton]

/-- The second pass has written the users of the infos before, and goes on with the next one. -/
theorem collectMembers_eq {rest : List (GroupMemberInfo β)}
    (users : ∀ other ∈ rest, other.memberAddress.userId ≠ none)
    (earlier : List (GroupMemberInfo β)) (free : Nat)
    (room : (earlier.map GroupMemberInfo.identity).eraseDups.length + free =
      ((earlier ++ rest).map GroupMemberInfo.identity).eraseDups.length) :
    collectMembers initRole memberList rest
        (earlier.map GroupMemberInfo.identity).eraseDups.length
        (Slots.partly (collectedMembers initRole memberList
          (earlier.map GroupMemberInfo.identity)) free) =
      some (((earlier ++ rest).map GroupMemberInfo.identity).eraseDups.length,
        (collectedMembers initRole memberList
          ((earlier ++ rest).map GroupMemberInfo.identity)).map some) := by
  induction rest generalizing earlier free with
  | nil =>
      rw [List.append_nil] at room ⊢
      have noFree : free = 0 := by omega
      rw [collectMembers, noFree, Slots.partly_zero]
  | cons info rest ih =>
      rw [List.forall_mem_cons] at users
      rw [List.append_cons] at room ⊢
      have next := ih users.2 (earlier ++ [info])
      have counted := length_eraseDups_le ((earlier ++ [info]).map GroupMemberInfo.identity)
        (rest.map GroupMemberInfo.identity)
      rw [← List.map_append] at counted
      by_cases repeated : info.identity ∈ earlier.map GroupMemberInfo.identity
      · rw [collectMembers_repeated users.1 repeated]
        apply next
        rw [List.map_append, List.map_singleton, eraseDups_concat_repeated repeated]
        exact room
      · have longer : ((earlier ++ [info]).map GroupMemberInfo.identity).eraseDups.length =
            (earlier.map GroupMemberInfo.identity).eraseDups.length + 1 := by
          rw [List.map_append, List.map_singleton, eraseDups_concat_fresh repeated,
            List.length_append, List.length_singleton]
        obtain ⟨left, rfl⟩ : ∃ left, free = left + 1 := ⟨free - 1, by omega⟩
        rw [collectMembers_fresh users.1 repeated]
        exact next left (by omega)

end Passes

/-- Both passes agree for every arrangement of the devices.
The array lists each user once, in the order of their first devices. -/
theorem memberInfoToGroupMembers_collects (initRole : GroupRole)
    (infos : List (GroupMemberInfo β)) (memberList : List GroupMember)
    (users : ∀ info ∈ infos, info.memberAddress.userId ≠ none) :
    ∃ count slots, memberInfoToGroupMembers initRole infos memberList =
        some (count, count, slots) ∧
      count = (infos.map GroupMemberInfo.identity).toFinset.card ∧
      slots = ((infos.map GroupMemberInfo.identity).eraseDups.map fun identity =>
        some (collectedMember initRole memberList identity)) := by
  have collected := @collectMembers_eq β initRole memberList infos users []
    (infos.map GroupMemberInfo.identity).eraseDups.length (by simp)
  refine ⟨(infos.map GroupMemberInfo.identity).eraseDups.length, _, ?_,
    length_eraseDups _, rfl⟩
  rw [memberInfoToGroupMembers, destNum_eq users, Option.bind_some]
  have empty : Slots.partly (collectedMembers initRole memberList
      (([] : List (GroupMemberInfo β)).map GroupMemberInfo.identity))
        (infos.map GroupMemberInfo.identity).eraseDups.length =
      Slots.malloc GroupMember (infos.map GroupMemberInfo.identity).eraseDups.length := rfl
  rw [empty, List.map_nil, List.eraseDups_nil, List.length_nil, List.nil_append] at collected
  rw [collected, Option.map_some, collectedMembers, List.map_map]
  rfl

/-- A device of Bob stands between two devices of Alice. -/
def sampleInfos : List (GroupMemberInfo UInt8) :=
  [⟨⟨"domain", .user "alice" "phone"⟩, [1]⟩, ⟨⟨"domain", .user "bob" "phone"⟩, [2]⟩,
    ⟨⟨"domain", .user "alice" "laptop"⟩, [3]⟩]

theorem memberInfoToGroupMembers_collects_sample :
    ∃ count slots, memberInfoToGroupMembers .member sampleInfos sampleGroupInfo.groupMemberList =
        some (count, count, slots) ∧
      count = (sampleInfos.map GroupMemberInfo.identity).toFinset.card ∧
      slots = ((sampleInfos.map GroupMemberInfo.identity).eraseDups.map fun identity =>
        some (collectedMember .member sampleGroupInfo.groupMemberList identity)) :=
  memberInfoToGroupMembers_collects .member sampleInfos sampleGroupInfo.groupMemberList (by decide)

end Collecting

end E2eeSecurity
