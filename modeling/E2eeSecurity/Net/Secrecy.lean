/-
This file shows that the state of a party does not reveal the messages that it has already handled.
-/
import E2eeSecurity.Net.Model
import E2eeSecurity.Ratchet.Secrecy

namespace E2eeSecurity

variable {β : Type} {cipherSuite : CipherSuite β}

/-- These are all byte strings of the payloads that were ever on the wire. -/
def Net.wire (net : Net β) : Set (Bytes β) :=
  {value | ∃ sender, ∃ entry ∈ net.sent sender, ∃ payload ∈ entry.payload,
    value = payload.ratchetKey ∨ value = payload.ciphertext}

/-- An observer of the wire that takes the ratchet of a party derives a value. -/
def Net.Exposes (cipherSuite : CipherSuite β) (net : Net β) (party : Party) (value : Bytes β) :
    Prop :=
  Deduction.Derives (Forward cipherSuite) ((net.ratchet party).fields ∪ net.wire) value

/-- The history of a party holds the key of every message that it encrypted or opened. -/
structure Accounted (cipherSuite : CipherSuite β) (sharedSecret : Bytes β) (net : Net β)
    (party : Party) (history : KeyHistory β) : Prop where
  tracks : Tracks cipherSuite sharedSecret (net.ratchet party) history
  kemKeys : (net.ratchet party).KemKeys cipherSuite
  encrypted : ∀ entry ∈ net.sent party, entry.payload ≠ none →
    ∃ place ∈ history.ledger.used, entry.messageKey = cipherSuite.keyAt place
  opened : ∀ reception ∈ net.received party, ∀ plaintext, reception.result = some plaintext →
    ∃ place ∈ history.ledger.used, ∃ ad, cipherSuite.se.decrypt ad (cipherSuite.keyAt place)
      reception.payload.ciphertext = some plaintext

/-- Every payload is an encryption of an innocent plaintext, and only such payloads are received. -/
structure Wired (cipherSuite : CipherSuite β) (sharedSecret : Bytes β) (net : Net β) : Prop where
  payloads : ∀ sender, ∀ entry ∈ net.sent sender, ∀ payload ∈ entry.payload,
    cipherSuite.Inert payload.ratchetKey ∧
      Innocent cipherSuite sharedSecret entry.plaintext ∧
      ∃ ad, cipherSuite.se.encrypt ad entry.messageKey entry.plaintext = some payload.ciphertext
  received : ∀ party, ∀ reception ∈ net.received party,
    ∃ entry, (net.sent party.peer)[reception.position]? = some entry ∧
      reception.payload ∈ entry.payload

section Steps

variable {sharedSecret : Bytes β} {net : Net β} {party : Party} {history : KeyHistory β}

/-- Everything that an observer has is safe. -/
theorem Accounted.exposed_safe (free : cipherSuite.Free)
    (wired : Wired cipherSuite sharedSecret net)
    (accounted : Accounted cipherSuite sharedSecret net party history) {value : Bytes β}
    (exposes : net.Exposes cipherSuite party value) :
    value ∉ history.spent cipherSuite sharedSecret := by
  have secrets := accounted.tracks.spent_secret
  have known : (net.ratchet party).fields ∪ net.wire ⊆
      Safe cipherSuite (history.spent cipherSuite sharedSecret) := by
    apply Set.union_subset (accounted.tracks.fields_safe free accounted.kemKeys)
    rintro item ⟨sender, entry, member, payload, present, rfl | rfl⟩
    · exact safe_of_inert secrets (wired.payloads sender entry member payload present).1
    · obtain ⟨-, innocent, ad, encrypted⟩ := wired.payloads sender entry member payload present
      exact safe_of_encrypted free secrets encrypted innocent
  exact exposes.mem_of_closed (accounted.tracks.safe_closed free) known value .refl

theorem Accounted.congr (accounted : Accounted cipherSuite sharedSecret net party history)
    {next : Net β} (ratchet : next.ratchet party = net.ratchet party)
    (sent : next.sent party = net.sent party) (received : next.received party = net.received party) :
    Accounted cipherSuite sharedSecret next party history := by
  refine ⟨?_, ?_, ?_, ?_⟩
  · rw [ratchet]
    exact accounted.tracks
  · rw [ratchet]
    exact accounted.kemKeys
  · rw [sent]
    exact accounted.encrypted
  · rw [received]
    exact accounted.opened

/-- An encryption takes the next key of the sender chain. -/
theorem nextMessageKey_eq (suite : isValidCipherSuite cipherSuite = true) {ratchet : Ratchet β}
    (sized : ratchet.Sized cipherSuite) {senderChain : SenderChainNode β} {chainKey : ChainKey β}
    (sender : ratchet.senderChain = some senderChain)
    (present : senderChain.chainKey = some chainKey) :
    nextMessageKey cipherSuite ratchet = cipherSuite.messageKey chainKey.sharedKey := by
  have full : cipherSuite.FullKey chainKey.sharedKey :=
    sized.sender senderChain (by simp [sender]) chainKey (by simp [present])
  simp [nextMessageKey, sender, present, createMsgKeys_full suite chainKey.index full]

/-- An encryption accounts for the key of its payload. -/
theorem Accounted.encrypt (accounted : Accounted cipherSuite sharedSecret net party history)
    (ad data : Bytes β) :
    ∃ next, Accounted cipherSuite sharedSecret
        (net.encrypt cipherSuite ad party (some data)) party next ∧
      ∀ payload, (encryptRatchet cipherSuite (net.ratchet party) ad (some data)).1 = some payload →
        cipherSuite.Inert payload.ratchetKey ∧
          cipherSuite.se.encrypt ad (nextMessageKey cipherSuite (net.ratchet party)) data =
            some payload.ciphertext := by
  have tracks := accounted.tracks
  have kemKeys := accounted.kemKeys.encrypt tracks.sized ad (some data)
  rcases encryptRatchet_cases tracks.sized ad (some data) with
    refused | ⟨senderChain, chainKey, data', suite, sender, present, same, made⟩
  · refine ⟨history, ⟨?_, ?_, ?_, accounted.opened⟩, by simp [refused]⟩
    · simpa [Net.encrypt, refused] using tracks
    · simpa [Net.encrypt] using kemKeys
    · intro entry member emitted
      simp only [Net.encrypt, Function.update_self, List.mem_append, List.mem_singleton] at member
      rcases member with old | rfl
      · exact accounted.encrypted entry old emitted
      · simp [refused] at emitted
  · cases same
    have key := nextMessageKey_eq suite tracks.sized sender present
    have place : cipherSuite.messageKey chainKey.sharedKey =
        cipherSuite.keyAt history.ledger.sending := by
      rw [tracks.sender senderChain (by simp [sender]) chainKey (by simp [present])]
      rfl
    refine ⟨{ history with ledger := history.ledger.send }, ⟨?_, ?_, ?_, ?_⟩, ?_⟩
    · simpa [Net.encrypt, made] using tracks.send sender present
    · simpa [Net.encrypt] using kemKeys
    · intro entry member emitted
      simp only [Net.encrypt, Function.update_self, List.mem_append, List.mem_singleton] at member
      rcases member with old | rfl
      · obtain ⟨used, inside, same⟩ := accounted.encrypted entry old emitted
        exact ⟨used, List.mem_cons_of_mem _ inside, same⟩
      · exact ⟨_, List.mem_cons_self, key.trans place⟩
    · intro reception member plaintext success
      obtain ⟨used, inside, opened⟩ := accounted.opened reception member plaintext success
      exact ⟨used, List.mem_cons_of_mem _ inside, opened⟩
    · intro payload emitted
      rw [made] at emitted
      obtain ⟨ciphertext, encrypted, rfl⟩ := Option.map_eq_some_iff.mp emitted
      rw [key]
      exact ⟨(accounted.kemKeys.sender senderChain (by simp [sender])).1, encrypted⟩

variable [DecidableEq β]

/-- A decryption accounts for the key that opened the payload. -/
theorem Accounted.decrypt (free : cipherSuite.Free)
    (accounted : Accounted cipherSuite sharedSecret net party history) (ad : Bytes β)
    (position : Nat) {payload : One2oneMsgPayload β} (coins : Bytes β)
    (named : cipherSuite.Inert payload.ratchetKey) :
    ∃ next, Accounted cipherSuite sharedSecret
      (net.decrypt cipherSuite ad party position payload coins) party next := by
  obtain ⟨next, tracks, ⟨-, grows⟩, opens⟩ :=
    accounted.tracks.decrypt free.keys ad payload coins
  have kemKeys := accounted.kemKeys.decrypt free accounted.tracks.sized ad coins named
  refine ⟨next, ?_, ?_, ?_, ?_⟩
  · simpa [Net.decrypt] using tracks
  · simpa [Net.decrypt] using kemKeys
  · intro entry member emitted
    obtain ⟨place, used, same⟩ := accounted.encrypted entry member emitted
    exact ⟨place, grows used, same⟩
  · intro reception member plaintext success
    simp only [Net.decrypt, Function.update_self, List.mem_append, List.mem_singleton] at member
    rcases member with old | rfl
    · obtain ⟨place, used, opened⟩ := accounted.opened reception old plaintext success
      exact ⟨place, grows used, opened⟩
    · obtain ⟨place, -, used, opened⟩ := opens plaintext success
      exact ⟨place, used, ad, opened⟩

end Steps

section Runs

/-- An encryption event has an innocent plaintext. -/
def NetEvent.Innocent (cipherSuite : CipherSuite β) (sharedSecret : Bytes β) :
    NetEvent β → Prop
  | .encrypt _ (some data) => E2eeSecurity.Innocent cipherSuite sharedSecret data
  | _ => True

/-- The wire and the histories of both parties are in order. -/
structure Confined (cipherSuite : CipherSuite β) (sharedSecret : Bytes β) (net : Net β) :
    Prop where
  wired : Wired cipherSuite sharedSecret net
  accounted : ∀ party, ∃ history, Accounted cipherSuite sharedSecret net party history

variable [DecidableEq β] {sharedSecret ad : Bytes β} {keys : Party → KeyPair β}
  {coins : Party → Bytes β} {start net : Net β}

omit [DecidableEq β] in
/-- An encryption of an innocent plaintext keeps the order. -/
theorem Confined.encrypt (confined : Confined cipherSuite sharedSecret net) (sender : Party)
    {data : Bytes β} (innocent : Innocent cipherSuite sharedSecret data) :
    Confined cipherSuite sharedSecret (net.encrypt cipherSuite ad sender (some data)) := by
  obtain ⟨history, accounted⟩ := confined.accounted sender
  obtain ⟨next, moved, emits⟩ := accounted.encrypt ad data
  have others : (net.encrypt cipherSuite ad sender (some data)).sent sender.peer =
      net.sent sender.peer := by simp [Net.encrypt]
  refine ⟨⟨?_, ?_⟩, ?_⟩
  · intro party entry member payload present
    rcases Party.eq_or_peer party sender with rfl | rfl
    · simp only [Net.encrypt, Function.update_self, List.mem_append, List.mem_singleton] at member
      rcases member with old | rfl
      · exact confined.wired.payloads party entry old payload present
      · obtain ⟨named, encrypted⟩ := emits payload present
        exact ⟨named, innocent, ad, encrypted⟩
    · rw [others] at member
      exact confined.wired.payloads sender.peer entry member payload present
  · intro party reception member
    obtain ⟨entry, found, present⟩ := confined.wired.received party reception member
    refine ⟨entry, ?_, present⟩
    rcases Party.eq_or_peer party sender with rfl | rfl
    · rw [others]
      exact found
    · rw [Party.peer_peer] at found ⊢
      simp only [Net.encrypt, Function.update_self]
      rw [List.getElem?_append_left (List.getElem?_eq_some_iff.mp found).1]
      exact found
  · intro party
    rcases Party.eq_or_peer party sender with rfl | rfl
    · exact ⟨next, moved⟩
    · obtain ⟨peerHistory, peerAccounted⟩ := confined.accounted sender.peer
      exact ⟨peerHistory, peerAccounted.congr (by simp [Net.encrypt]) others rfl⟩

/-- A decryption of a payload from the wire keeps the order. -/
theorem Confined.decrypt (free : cipherSuite.Free)
    (confined : Confined cipherSuite sharedSecret net) {receiver : Party} {position : Nat}
    {payload : One2oneMsgPayload β} (coins : Bytes β)
    (present : net.payloadAt receiver.peer position = some payload) :
    Confined cipherSuite sharedSecret
      (net.decrypt cipherSuite ad receiver position payload coins) := by
  obtain ⟨entry, found, emitted⟩ := Option.bind_eq_some_iff.mp present
  have named := (confined.wired.payloads receiver.peer entry (List.mem_of_getElem? found) payload
    emitted).1
  refine ⟨⟨confined.wired.payloads, ?_⟩, ?_⟩
  · intro party reception member
    rcases Party.eq_or_peer party receiver with rfl | rfl
    · simp only [Net.decrypt, Function.update_self, List.mem_append, List.mem_singleton] at member
      rcases member with old | rfl
      · exact confined.wired.received party reception old
      · exact ⟨entry, found, emitted⟩
    · refine confined.wired.received receiver.peer reception ?_
      simpa [Net.decrypt] using member
  · intro party
    rcases Party.eq_or_peer party receiver with rfl | rfl
    · obtain ⟨history, accounted⟩ := confined.accounted party
      exact accounted.decrypt free ad position coins named
    · obtain ⟨peerHistory, peerAccounted⟩ := confined.accounted receiver.peer
      exact ⟨peerHistory, peerAccounted.congr (by simp [Net.decrypt]) rfl (by simp [Net.decrypt])⟩

theorem Confined.step (free : cipherSuite.Free) {event : NetEvent β}
    (confined : Confined cipherSuite sharedSecret net)
    (innocent : event.Innocent cipherSuite sharedSecret) :
    Confined cipherSuite sharedSecret (stepNet cipherSuite ad net event) := by
  cases event with
  | encrypt sender plaintext =>
      cases plaintext with
      | none =>
          simp only [stepNet, Net.encrypt_none]
          exact confined
      | some data => exact confined.encrypt sender innocent
  | decrypt receiver position coins =>
      cases present : net.payloadAt receiver.peer position with
      | none =>
          simp only [stepNet, present]
          exact confined
      | some payload =>
          simp only [stepNet, present]
          exact confined.decrypt free coins present

omit [DecidableEq β] in
theorem Confined.first (free : cipherSuite.Free)
    (matched : MatchedStart cipherSuite sharedSecret keys coins start)
    (inert : ∀ party, cipherSuite.Inert (keys party).publicKey ∧
      cipherSuite.Inert (keys party).privateKey) :
    Confined cipherSuite sharedSecret start := by
  obtain ⟨bob, alice⟩ := matched.ratchets
  have unsent := matched.unsent
  have unread := matched.unread
  refine ⟨⟨fun sender entry member => ?_, fun party reception member => ?_⟩, ?_⟩
  · simp [unsent sender] at member
  · simp [unread party] at member
  · intro party
    cases party with
    | bob =>
        refine ⟨_, Tracks.bob matched.bob, ⟨?_, ?_, ?_⟩, by simp [unsent], by simp [unread]⟩ <;>
          rw [bob]
        · rintro chain ⟨⟩
          exact ⟨free.encapsCiphertext _ _, (inert .alice).1⟩
        · rintro chain ⟨⟩
          exact ⟨free.empty, (inert .bob).2⟩
        · simp [Ratchet.skipped]
    | alice =>
        refine ⟨_, Tracks.alice free.keys matched.alice, ⟨?_, ?_, ?_⟩, by simp [unsent],
          by simp [unread]⟩ <;> rw [alice]
        · rintro chain ⟨⟩
          exact ⟨free.encapsCiphertext _ _, (inert .bob).1⟩
        · rintro chain ⟨⟩
          exact ⟨free.encapsCiphertext _ _, (inert .alice).2⟩
        · simp [Ratchet.skipped]

/-- The ratchet of a party and the whole wire do not reveal the key of a message that this party
has encrypted or has opened. -/
theorem runNet_forward_secrecy (free : cipherSuite.Free)
    (matched : MatchedStart cipherSuite sharedSecret keys coins start)
    (inert : ∀ party, cipherSuite.Inert (keys party).publicKey ∧
      cipherSuite.Inert (keys party).privateKey)
    (events : List (NetEvent β))
    (innocent : ∀ event ∈ events, event.Innocent cipherSuite sharedSecret) (party : Party) :
    let net := runNet cipherSuite ad start events
    (∀ entry ∈ net.sent party, entry.payload ≠ none →
        ¬ net.Exposes cipherSuite party entry.messageKey) ∧
      ∀ reception ∈ net.received party, reception.result ≠ none →
        ∃ entry, (net.sent party.peer)[reception.position]? = some entry ∧
          entry.payload = some reception.payload ∧
          ¬ net.Exposes cipherSuite party entry.messageKey := by
  intro net
  obtain ⟨wired, histories⟩ : Confined cipherSuite sharedSecret net :=
    Machine.run_invariant_along (fun _ _ confined meets => Confined.step free confined meets) events
      (Confined.first free matched inert) (Machine.along_of_forall innocent start)
  obtain ⟨history, accounted⟩ := histories party
  have spent : ∀ place ∈ history.ledger.used,
      ¬ net.Exposes cipherSuite party (cipherSuite.keyAt place) :=
    fun place used exposes =>
      accounted.exposed_safe free wired exposes (Or.inl ⟨place, used, rfl⟩)
  constructor
  · intro entry member emitted
    obtain ⟨place, used, same⟩ := accounted.encrypted entry member emitted
    rw [same]
    exact spent place used
  · intro reception member success
    obtain ⟨plaintext, result⟩ := Option.ne_none_iff_exists'.mp success
    obtain ⟨place, used, ad', opened⟩ := accounted.opened reception member plaintext result
    obtain ⟨entry, found, present⟩ := wired.received party reception member
    obtain ⟨-, -, ad'', encrypted⟩ := wired.payloads party.peer entry (List.mem_of_getElem? found)
      reception.payload present
    obtain ⟨-, same, -⟩ := free.ideal _ _ _ _ _ _ _ (free.correct _ _ _ _ encrypted) opened
    refine ⟨entry, found, present, ?_⟩
    rw [same]
    exact spent place used

end Runs

namespace Symbolic

theorem partyKeys_inert (party : Party) : symbolicSuite.Inert (partyKeys party).publicKey ∧
    symbolicSuite.Inert (partyKeys party).privateKey := by
  cases party <;> exact ⟨inert_of_head rfl rfl, inert_of_head rfl rfl⟩

theorem exchange_innocent :
    ∀ event ∈ exchange, event.Innocent symbolicSuite sharedSecret := by
  have byte : ∀ value, Innocent symbolicSuite sharedSecret [.byte value] :=
    fun value => innocent_of_inert (inert_of_head rfl rfl)
  intro event member
  simp only [exchange, List.mem_cons, List.not_mem_nil, or_false] at member
  rcases member with rfl | rfl | rfl | rfl | rfl | rfl | rfl | rfl
  all_goals first | exact byte _ | trivial

end Symbolic

/-- After the exchange the ratchet of Bob and the wire do not reveal what he sent and opened. -/
theorem exchange_forward_secrecy :
    let net := runNet symbolicSuite Symbolic.associatedData Symbolic.net Symbolic.exchange
    (net.received .bob).map Reception.result = [some [.byte 21], some [.byte 23], some [.byte 20]] ∧
      ∀ reception ∈ net.received .bob, reception.result ≠ none →
        ∃ entry, (net.sent .alice)[reception.position]? = some entry ∧
          entry.payload = some reception.payload ∧
          ¬ net.Exposes symbolicSuite .bob entry.messageKey :=
  ⟨by decide +kernel, (runNet_forward_secrecy symbolicSuite_freePrimitives Symbolic.net_matched
    Symbolic.partyKeys_inert Symbolic.exchange Symbolic.exchange_innocent .bob).2⟩

end E2eeSecurity
