/-
This file gives the members of a group as the messages and requests list them.
-/
import E2eeSecurity.Session.Account

namespace E2eeSecurity

inductive GroupRole
  | member
  | manager
  | pendingMember
  | pendingManager
  | other
  deriving DecidableEq

structure GroupMember where
  userId : String
  domain : String
  role : GroupRole
  deriving DecidableEq

structure GroupInfo where
  groupName : String
  groupAddress : E2eeAddress
  groupMemberList : List GroupMember
  deriving DecidableEq

/-- This is one device of a member with its signature key. -/
structure GroupMemberInfo (β : Type) where
  memberAddress : E2eeAddress
  signPublicKey : Bytes β
  deriving DecidableEq

structure AddGroupMemberDeviceMsg (β : Type) where
  e2eesPackId : UInt32
  senderAddress : E2eeAddress
  sequence : UInt32
  groupInfo : GroupInfo
  addingMemberDevice : GroupMemberInfo β
  deriving DecidableEq

end E2eeSecurity
