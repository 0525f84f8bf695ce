/-
This file shows for how long the leaked state of a party reveals the messages of both parties.
-/
import E2eeSecurity.Net.Repeats
import E2eeSecurity.Net.Secrecy
import E2eeSecurity.Ratchet.Healing

namespace E2eeSecurity

variable {β : Type} {cipherSuite : CipherSuite β} {ad : Bytes β} {keys : Party → KeyPair β}

/-- The epochs from a number on were started by decryptions of a run. -/
def StartedBy (cipherSuite : CipherSuite β) (keys : Party → KeyPair β)
    (events : List (NetEvent β)) (first : Nat) (epochs : List (Epoch β)) : Prop :=
  ∀ number epoch, first ≤ number → epochs[number]? = some epoch →
    ∃ position coins, NetEvent.decrypt (owner number) position coins ∈ events ∧
      epoch.key = (cipherSuite.kem.encapsulate coins (keys (owner number).peer).publicKey).2

/-- Every epoch is named by an encapsulation to the other party. -/
def Named (cipherSuite : CipherSuite β) (keys : Party → KeyPair β) (epochs : List (Epoch β)) :
    Prop :=
  ∀ number epoch, epochs[number]? = some epoch →
    ∃ coins, epoch.key =
      (cipherSuite.kem.encapsulate coins (keys (owner number).peer).publicKey).2

/-- A network has the ratchets of a network without repetitions, some events started its new epochs,
and their names differ from all later ones. -/
def Extends (cipherSuite : CipherSuite β) (sharedSecret ad : Bytes β) (keys : Party → KeyPair β)
    (epochs : List (Epoch β)) (later : List (Bytes β)) (events : List (NetEvent β))
    (net : Net β) : Prop :=
  ∃ added once, Repeating cipherSuite sharedSecret ad keys (epochs ++ added) net once ∧
    ((epochs ++ added).map Epoch.key ++ later).Nodup ∧
    StartedBy cipherSuite keys events epochs.length (epochs ++ added)

/-- These are the coins of the decryptions of a party. -/
def freshCoins (party : Party) (events : List (NetEvent β)) : Set (Bytes β) :=
  {coins | ∃ position, NetEvent.decrypt party position coins ∈ events}

section Runs

variable [DecidableEq β] {sharedSecret : Bytes β} {epochs : List (Epoch β)} {net once : Net β}

/-- A decryption that adds an epoch owns it. -/
theorem Delivery.added_owner {receiver : Party} {position : Nat} {payload : One2oneMsgPayload β}
    {coins : Bytes β} {next : Epoch β} (delivery : Delivery cipherSuite ad keys epochs net)
    (extended : Delivery cipherSuite ad keys (epochs ++ [next])
      (net.decrypt cipherSuite ad receiver position payload coins)) :
    owner epochs.length = receiver := by
  obtain ⟨number, epoch, found, -, seat⟩ := delivery.lockstep.seats receiver.peer
  obtain ⟨later, other, -, near, moved⟩ := extended.lockstep.seats receiver.peer
  have kept : ((net.decrypt cipherSuite ad receiver position payload coins).ratchet
      receiver.peer).rootSequence = (net.ratchet receiver.peer).rootSequence := by
    simp [Net.decrypt]
  have same : later = number := by rw [← moved.rootSequence, kept, seat.rootSequence]
  have inside := (List.getElem?_eq_some_iff.mp found).1
  rw [List.length_append, List.length_singleton, same] at near
  have last : epochs.length = number + 1 := by omega
  rw [last, owner_succ, seat.owned, Party.peer_peer]

omit [DecidableEq β] in
/-- A network with the same epochs extends them by none. -/
theorem Repeating.extends_none {later : List (Bytes β)}
    (repeating : Repeating cipherSuite sharedSecret ad keys epochs net once)
    (distinct : (epochs.map Epoch.key ++ later).Nodup) (events : List (NetEvent β)) :
    Extends cipherSuite sharedSecret ad keys epochs later events net := by
  refine ⟨[], once, ?_, ?_, ?_⟩
  · rw [List.append_nil]
    exact repeating
  · rw [List.append_nil]
    exact distinct
  · intro number epoch reached found
    rw [List.append_nil] at found
    have inside := (List.getElem?_eq_some_iff.mp found).1
    omega

/-- An event adds at most one epoch, and then it is a decryption with the coins of the epoch. -/
theorem Repeating.step_extends (free : cipherSuite.Free) (setting : Setting cipherSuite ad keys)
    {event : NetEvent β} {later : List (Bytes β)}
    (repeating : Repeating cipherSuite sharedSecret ad keys epochs net once)
    (fresh : (epochs.map Epoch.key ++
      ((event.ciphertext cipherSuite keys).toList ++ later)).Nodup)
    (bounded : (stepNet cipherSuite ad net event).Bounded)
    (noWrap : NoWrap cipherSuite ad net event) :
    Extends cipherSuite sharedSecret ad keys epochs later [event]
      (stepNet cipherSuite ad net event) := by
  have kept : (epochs.map Epoch.key ++ later).Nodup :=
    fresh.sublist (List.Sublist.append_left (List.sublist_append_right _ _) _)
  cases event with
  | encrypt sender plaintext =>
      cases plaintext with
      | none =>
          simp only [stepNet, Net.encrypt_none]
          exact repeating.extends_none kept _
      | some data =>
          have few := bounded.few sender
          simp only [stepNet, Net.encrypt, Function.update_self, List.length_append,
            List.length_singleton] at few
          exact (repeating.encrypt setting sender data few).extends_none kept _
  | decrypt receiver position coins =>
      cases present : net.payloadAt receiver.peer position with
      | none =>
          simp only [stepNet, present]
          exact repeating.extends_none kept _
      | some payload =>
          simp only [stepNet, NoWrap, present] at bounded noWrap ⊢
          by_cases again : position ∈ net.delivered receiver
          · exact (repeating.decrypt_again free.keys free.ideal present again coins).extends_none
              kept _
          · have outstanding := bounded.outstanding receiver
            have ordered := noWrap receiver
            rw [(net.delivered_decrypt cipherSuite ad receiver position payload coins).1]
              at outstanding
            simp only [Net.decrypt, Function.update_self] at ordered
            obtain ⟨added, extended, empty | one⟩ := repeating.decrypt_first free.keys setting
              (List.nodup_append.mp fresh).1 present again outstanding ordered
            · subst empty
              rw [List.append_nil] at extended
              exact extended.extends_none kept _
            · obtain ⟨next, rfl, named⟩ := List.map_eq_singleton_iff.mp one
              refine ⟨[next], _, extended, ?_, ?_⟩
              · rw [List.map_append, one, List.append_assoc]
                exact fresh
              · intro number epoch reached found
                rcases Window.getElem?_concat found with old | ⟨rfl, rfl⟩
                · have inside := (List.getElem?_eq_some_iff.mp old).1
                  omega
                · rw [repeating.delivery.added_owner extended.delivery]
                  exact ⟨position, coins, List.mem_singleton_self _, named⟩

/-- A guarded run adds epochs that its decryptions start. -/
theorem Repeating.run_extends (free : cipherSuite.Free) (setting : Setting cipherSuite ad keys)
    (events : List (NetEvent β)) {later : List (Bytes β)} {epochs : List (Epoch β)}
    {net once : Net β} (repeating : Repeating cipherSuite sharedSecret ad keys epochs net once)
    (fresh : (epochs.map Epoch.key ++
      (events.filterMap (NetEvent.ciphertext cipherSuite keys) ++ later)).Nodup)
    (guarded : Machine.Along (stepNet cipherSuite ad) (fun net event =>
      (stepNet cipherSuite ad net event).Bounded ∧ NoWrap cipherSuite ad net event) net events) :
    Extends cipherSuite sharedSecret ad keys epochs later events
      (runNet cipherSuite ad net events) := by
  induction events generalizing epochs net once with
  | nil => exact repeating.extends_none (by simpa using fresh) []
  | cons event rest ih =>
      obtain ⟨⟨bounded, noWrap⟩, after⟩ := guarded
      have split : (event :: rest).filterMap (NetEvent.ciphertext cipherSuite keys) =
          (event.ciphertext cipherSuite keys).toList ++
            rest.filterMap (NetEvent.ciphertext cipherSuite keys) := by
        cases made : event.ciphertext cipherSuite keys <;> simp [made]
      rw [split, List.append_assoc] at fresh
      obtain ⟨first, once', stepped, distinct, starts⟩ :=
        repeating.step_extends free setting fresh bounded noWrap
      obtain ⟨more, once'', reached, kept, continues⟩ := ih stepped distinct after
      rw [List.append_assoc] at reached kept continues
      refine ⟨first ++ more, once'', reached, kept, ?_⟩
      intro number epoch bound found
      by_cases early : number < (epochs ++ first).length
      · rw [← List.append_assoc, List.getElem?_append_left early] at found
        obtain ⟨position, coins, member, named⟩ := starts number epoch bound found
        rw [List.mem_singleton] at member
        exact ⟨position, coins, member ▸ List.mem_cons_self, named⟩
      · obtain ⟨position, coins, member, named⟩ :=
          continues number epoch (Nat.le_of_not_lt early) found
        exact ⟨position, coins, List.mem_cons_of_mem _ member, named⟩

/-- Every recorded plaintext was given to an encryption of the run. -/
theorem runNet_sent {start : Net β} (unsent : ∀ party, start.sent party = [])
    (events : List (NetEvent β)) (party : Party) :
    ∀ entry ∈ (runNet cipherSuite ad start events).sent party,
      NetEvent.encrypt party (some entry.plaintext) ∈ events := by
  induction events using List.reverseRecOn with
  | nil => simp [runNet, unsent]
  | append_singleton rest event ih =>
      intro entry member
      have earlier : entry ∈ (runNet cipherSuite ad start rest).sent party →
          NetEvent.encrypt party (some entry.plaintext) ∈ rest ++ [event] :=
        fun old => List.mem_append_left _ (ih entry old)
      rw [runNet, Machine.run_append, Machine.run_cons, Machine.run_nil] at member
      change entry ∈ (stepNet cipherSuite ad (runNet cipherSuite ad start rest) event).sent party
        at member
      cases event with
      | encrypt sender plaintext =>
          cases plaintext with
          | none =>
              rw [stepNet, Net.encrypt_none] at member
              exact earlier member
          | some data =>
              rcases Party.eq_or_peer party sender with rfl | rfl
              · simp only [stepNet, Net.encrypt, Function.update_self, List.mem_append,
                  List.mem_singleton] at member
                rcases member with old | rfl
                · exact earlier old
                · simp
              · refine earlier ?_
                simpa [stepNet, Net.encrypt] using member
      | decrypt receiver position coins =>
          refine earlier ?_
          cases present : (runNet cipherSuite ad start rest).payloadAt receiver.peer position <;>
            simpa [stepNet, present, Net.decrypt] using member

end Runs

/-- These values do not depend on the coins of a party in a run. -/
abbrev Unaffected (cipherSuite : CipherSuite β) (keys : Party → KeyPair β) (party : Party)
    (events : List (NetEvent β)) : Set (Bytes β) :=
  Untainted cipherSuite (keys party.peer).publicKey (freshCoins party events)

/-- The values that an observer may know from the start never open to a value that depends on the
coins of the party after the leak. -/
structure Sheltered (cipherSuite : CipherSuite β) (sharedSecret : Bytes β)
    (keys : Party → KeyPair β) (party : Party) (before after : List (NetEvent β)) : Prop where
  atomic : ∀ coins ∈ freshCoins party after, cipherSuite.Atomic coins
  empty : [] ∈ Unaffected cipherSuite keys party after
  sharedSecret : sharedSecret ∈ Unaffected cipherSuite keys party after
  publicKey : ∀ other, (keys other).publicKey ∈ Unaffected cipherSuite keys party after
  privateKey : (keys party).privateKey ∈ Unaffected cipherSuite keys party after
  plaintexts : ∀ sender data, NetEvent.encrypt sender (some data) ∈ before ++ after →
    data ∈ Unaffected cipherSuite keys party after

section Clean

variable {sharedSecret : Bytes β} {party : Party} {before after : List (NetEvent β)}
  {epochs : List (Epoch β)} (free : cipherSuite.Free) (oneWay : cipherSuite.OneWay)
  (sheltered : Sheltered cipherSuite sharedSecret keys party before after)

include free oneWay sheltered

/-- The keys of a chain with an untainted start are untainted. -/
theorem Sheltered.advance {key : Bytes β} (distance : Nat)
    (clean : key ∈ Unaffected cipherSuite keys party after) :
    cipherSuite.advance^[distance] key ∈ Unaffected cipherSuite keys party after := by
  induction distance with
  | zero => exact clean
  | succ distance ih =>
      rw [Function.iterate_succ_apply']
      refine derive_untainted free oneWay sheltered.atomic (.advance _) ?_
      intro input member
      rw [List.mem_singleton.mp member]
      exact Untainted.clean ih

theorem Sheltered.keyAt {place : Bytes β × Nat}
    (clean : place.1 ∈ Unaffected cipherSuite keys party after) :
    cipherSuite.keyAt place ∈ Unaffected cipherSuite keys party after := by
  refine derive_untainted free oneWay sheltered.atomic (.messageKey _) ?_
  intro input member
  rw [List.mem_singleton.mp member]
  exact Untainted.clean (sheltered.advance free oneWay place.2 clean)

/-- The secret of an epoch is tainted only when its coins are fresh. -/
theorem Sheltered.secret {number : Nat} {coins : Bytes β}
    (old : owner number = party → (cipherSuite.kem.encapsulate coins
      (keys (owner number).peer).publicKey).2 ∉
        after.filterMap (NetEvent.ciphertext cipherSuite keys))
    (matching : cipherSuite.kem.Matching (keys party).publicKey (keys party).privateKey) :
    ¬ Tainted cipherSuite (keys party.peer).publicKey (freshCoins party after)
      (cipherSuite.kem.encapsulate coins (keys (owner number).peer).publicKey).1 := by
  intro tainted
  obtain ⟨⟨position, member⟩, same⟩ := tainted.of_encapsSecret free oneWay sheltered.atomic
  rcases Party.eq_or_peer (owner number) party with owned | other
  · refine old owned ?_
    rw [owned]
    exact List.mem_filterMap.mpr ⟨_, member, rfl⟩
  · rw [other, Party.peer_peer] at same
    rw [same] at matching
    exact Untainted.clean sheltered.privateKey (.privateKey matching)

/-- The epochs before the leak are untainted. -/
theorem Sheltered.unaffected (setting : Setting cipherSuite ad keys) {net : Net β}
    (lockstep : Lockstep cipherSuite keys epochs net) (named : Named cipherSuite keys epochs)
    (first : ∀ epoch, epochs[0]? = some epoch →
      epoch.root = cipherSuite.initialRoot sharedSecret ∧
        epoch.chain = cipherSuite.initialChain sharedSecret)
    (old : ∀ epoch ∈ epochs, epoch.key ∉ after.filterMap (NetEvent.ciphertext cipherSuite keys)) :
    ∀ (number : Nat) (epoch : Epoch β), epochs[number]? = some epoch →
      epoch.root ∈ Unaffected cipherSuite keys party after ∧
        epoch.chain ∈ Unaffected cipherSuite keys party after := by
  intro number
  induction number with
  | zero =>
      intro epoch found
      have clean : ∀ input ∈ [sharedSecret],
          ¬ Tainted cipherSuite (keys party.peer).publicKey (freshCoins party after) input := by
        intro input member
        rw [List.mem_singleton.mp member]
        exact Untainted.clean sheltered.sharedSecret
      obtain ⟨root, chain⟩ := first epoch found
      rw [root, chain]
      exact ⟨derive_untainted free oneWay sheltered.atomic (.initialRoot sharedSecret) clean,
        derive_untainted free oneWay sheltered.atomic (.initialChain sharedSecret) clean⟩
  | succ number ih =>
      intro epoch found
      have inside := (List.getElem?_eq_some_iff.mp found).1
      obtain ⟨previous, foundPrevious⟩ : ∃ previous, epochs[number]? = some previous :=
        ⟨_, List.getElem?_eq_getElem (by omega)⟩
      obtain ⟨root, chain⟩ := lockstep.follows number previous epoch foundPrevious found
      obtain ⟨coins, key⟩ := named (number + 1) epoch found
      have peer : keys (owner (number + 1)).peer = keys (owner number) := by
        rw [owner_succ, Party.peer_peer]
      have secretClean : ¬ Tainted cipherSuite (keys party.peer).publicKey
          (freshCoins party after) (cipherSuite.kem.encapsulate coins
            (keys (owner (number + 1)).peer).publicKey).1 :=
        sheltered.secret free oneWay (fun _ => key ▸ old epoch (List.mem_of_getElem? found))
          (setting.matching party)
      rw [peer] at secretClean key
      have opened : cipherSuite.kem.decaps (keys (owner number)).privateKey epoch.key =
          (cipherSuite.kem.encapsulate coins (keys (owner number)).publicKey).1 := by
        rw [key]
        exact setting.matching (owner number) coins
      rw [opened] at root chain
      have clean : ∀ input ∈ [previous.root, (cipherSuite.kem.encapsulate coins
            (keys (owner number)).publicKey).1],
          ¬ Tainted cipherSuite (keys party.peer).publicKey (freshCoins party after) input := by
        intro input member
        simp only [List.mem_cons, List.not_mem_nil, or_false] at member
        rcases member with rfl | rfl
        · exact Untainted.clean (ih previous foundPrevious).1
        · exact secretClean
      rw [root, chain]
      exact ⟨derive_untainted free oneWay sheltered.atomic (.nextRoot _ _) clean,
        derive_untainted free oneWay sheltered.atomic (.nextChain _ _) clean⟩

/-- The ratchet of the party at the leak is untainted. -/
theorem Sheltered.fields {net : Net β} (delivery : Delivery cipherSuite ad keys epochs net)
    (named : Named cipherSuite keys epochs)
    (clean : ∀ (number : Nat) (epoch : Epoch β), epochs[number]? = some epoch →
      epoch.root ∈ Unaffected cipherSuite keys party after ∧
        epoch.chain ∈ Unaffected cipherSuite keys party after) :
    (net.ratchet party).fields ⊆ Unaffected cipherSuite keys party after := by
  obtain ⟨number, epoch, found, near, seat⟩ := delivery.lockstep.seats party
  have mailbox := delivery.mailbox party number epoch found seat.rootSequence
  have keyClean : ∀ (place : Nat) (other : Epoch β), epochs[place]? = some other →
      other.key ∈ Unaffected cipherSuite keys party after := by
    intro place other present
    obtain ⟨coins, same⟩ := named place other present
    rw [same]
    exact encapsCiphertext_untainted free oneWay sheltered.atomic _ _
  rintro value (rfl | ⟨chain, present, sending⟩ | ⟨chain, present, receiving⟩ |
    ⟨node, stored, kept⟩)
  · rw [seat.rootKey]
    exact (clean number epoch found).1
  · rw [mailbox.sender, Option.mem_some_iff] at present
    subst present
    rcases sending with rfl | rfl | ⟨key, member, rfl⟩
    · exact keyClean number epoch found
    · exact sheltered.publicKey party.peer
    · rw [Option.mem_some_iff] at member
      subst member
      exact sheltered.advance free oneWay _ (clean number epoch found).2
  · have current := mailbox.chain
    cases number with
    | zero =>
        obtain ⟨-, same⟩ := current
        rw [same, Option.mem_some_iff] at present
        subst present
        rcases receiving with rfl | rfl | ⟨key, member, -⟩
        · exact sheltered.empty
        · exact sheltered.privateKey
        · cases member
    | succ number =>
        obtain ⟨previous, foundPrevious, -, same⟩ := current
        rw [same, Option.mem_some_iff] at present
        subst present
        rcases receiving with rfl | rfl | ⟨key, member, rfl⟩
        · exact keyClean number previous foundPrevious
        · exact sheltered.privateKey
        · rw [Option.mem_some_iff] at member
          subst member
          exact sheltered.advance free oneWay _ (clean number previous foundPrevious).2
  · obtain ⟨place, -, source, other, inside, rfl⟩ :=
      Window.forall₂_position mailbox.stored stored
    rcases kept with rfl | rfl
    · exact keyClean source other inside.found
    · exact sheltered.keyAt free oneWay (clean source other inside.found).2

/-- All payloads of an unaffected run are untainted. -/
theorem Sheltered.wire {net : Net β} (delivery : Delivery cipherSuite ad keys epochs net)
    (named : Named cipherSuite keys epochs)
    (plaintexts : ∀ sender, ∀ entry ∈ net.sent sender,
      NetEvent.encrypt sender (some entry.plaintext) ∈ before ++ after) :
    net.wire ⊆ Unaffected cipherSuite keys party after := by
  rintro value ⟨sender, entry, member, payload, present, kind⟩
  obtain ⟨position, atPosition⟩ := List.getElem?_of_mem member
  obtain ⟨number, epoch, inside, sentOn⟩ :=
    delivery.outbox sender position entry atPosition payload present
  rcases kind with rfl | rfl
  · obtain ⟨coins, same⟩ := named number epoch inside.found
    rw [sentOn.ratchetKey, same]
    exact encapsCiphertext_untainted free oneWay sheltered.atomic _ _
  · exact encrypt_untainted free oneWay sheltered.atomic sentOn.encrypted
      (sheltered.plaintexts sender entry.plaintext (plaintexts sender entry member))

omit free oneWay sheltered in
/-- The epochs after the first one that the party starts with fresh coins are tainted. -/
theorem tainted_epochs (setting : Setting cipherSuite ad keys) {net : Net β}
    (lockstep : Lockstep cipherSuite keys epochs net) {first : Nat} (positive : 0 < first)
    (owned : owner first = party) (started : StartedBy cipherSuite keys after first epochs)
    {number : Nat} (later : first ≤ number) :
    ∀ epoch, epochs[number]? = some epoch →
      Tainted cipherSuite (keys party.peer).publicKey (freshCoins party after) epoch.root ∧
        Tainted cipherSuite (keys party.peer).publicKey (freshCoins party after) epoch.chain := by
  induction number, later using Nat.le_induction with
  | base =>
      intro epoch found
      have inside := (List.getElem?_eq_some_iff.mp found).1
      obtain ⟨before, rfl⟩ : ∃ before, first = before + 1 := ⟨first - 1, by omega⟩
      obtain ⟨previous, foundPrevious⟩ : ∃ previous, epochs[before]? = some previous :=
        ⟨_, List.getElem?_eq_getElem (by omega)⟩
      obtain ⟨root, chain⟩ := lockstep.follows before previous epoch foundPrevious found
      obtain ⟨position, coins, member, key⟩ := started _ epoch (Nat.le_refl _) found
      rw [owned] at member key
      have peer : owner before = party.peer := by
        rw [← owned, owner_succ, Party.peer_peer]
      have opened : cipherSuite.kem.decaps (keys (owner before)).privateKey epoch.key =
          (cipherSuite.kem.encapsulate coins (keys party.peer).publicKey).1 := by
        rw [key, peer]
        exact setting.matching party.peer coins
      have tainted : Tainted cipherSuite (keys party.peer).publicKey (freshCoins party after)
          (cipherSuite.kem.encapsulate coins (keys party.peer).publicKey).1 :=
        .secret ⟨position, member⟩
      rw [root, chain, opened]
      exact ⟨.derived (.nextRoot _ _) (List.mem_cons_of_mem _ (List.mem_singleton_self _)) tainted,
        .derived (.nextChain _ _) (List.mem_cons_of_mem _ (List.mem_singleton_self _)) tainted⟩
  | succ number later ih =>
      intro epoch found
      have inside := (List.getElem?_eq_some_iff.mp found).1
      obtain ⟨previous, foundPrevious⟩ : ∃ previous, epochs[number]? = some previous :=
        ⟨_, List.getElem?_eq_getElem (by omega)⟩
      obtain ⟨root, chain⟩ := lockstep.follows number previous epoch foundPrevious found
      have tainted := (ih previous foundPrevious).1
      rw [root, chain]
      exact ⟨.derived (.nextRoot _ _) List.mem_cons_self tainted,
        .derived (.nextChain _ _) List.mem_cons_self tainted⟩

omit free oneWay sheltered in
/-- All keys of a tainted chain are tainted. -/
theorem tainted_keyAt {theirKey chain : Bytes β} {fresh : Set (Bytes β)} (distance : Nat)
    (tainted : Tainted cipherSuite theirKey fresh chain) :
    Tainted cipherSuite theirKey fresh (cipherSuite.keyAt (chain, distance)) := by
  have advanced : Tainted cipherSuite theirKey fresh (cipherSuite.advance^[distance] chain) := by
    induction distance with
    | zero => exact tainted
    | succ distance ih =>
        rw [Function.iterate_succ_apply']
        exact .derived (.advance _) (List.mem_singleton_self _) ih
  exact .derived (.messageKey _) (List.mem_singleton_self _) advanced

end Clean

section Leak

variable {known : Set (Bytes β)}

/-- A chain key leads to all later message keys of its chain. -/
theorem derives_keyAt {chain : Bytes β} (reached : Nat) {position : Nat}
    (later : reached ≤ position)
    (derives : Deduction.Derives (Evaluates cipherSuite) known
      (cipherSuite.advance^[reached] chain)) :
    Deduction.Derives (Evaluates cipherSuite) known (cipherSuite.keyAt (chain, position)) := by
  have advanced : Deduction.Derives (Evaluates cipherSuite) known
      (cipherSuite.advance^[position] chain) := by
    induction position, later using Nat.le_induction with
    | base => exact derives
    | succ position later ih =>
        rw [Function.iterate_succ_apply']
        refine .apply (.derive (.advance _)) ?_
        intro premise member
        rw [List.mem_singleton.mp member]
        exact ih
  refine .apply (.derive (.messageKey _)) ?_
  intro premise member
  rw [List.mem_singleton.mp member]
  exact advanced

/-- An observer of the wire that has seen a ratchet at one time derives a value. -/
def LeakExposes (cipherSuite : CipherSuite β) (leaked net : Net β) (party : Party)
    (value : Bytes β) : Prop :=
  Deduction.Derives (Evaluates cipherSuite) ((leaked.ratchet party).fields ∪ net.wire) value

variable {epochs added : List (Epoch β)} {leaked net : Net β} {party sender : Party}
  {number position : Nat} {epoch source : Epoch β}

/-- A message that is sent after the leak lies at or after the epoch of its sender at the leak. -/
theorem Delivery.sent_later (delivery : Delivery cipherSuite ad keys epochs leaked)
    (starts : ∀ number epoch next, (epochs ++ added)[number]? = some epoch →
      (epochs ++ added)[number + 2]? = some next → epoch.start ≤ next.start)
    (found : epochs[number]? = some epoch)
    (seat : Seat cipherSuite keys sender number epoch (leaked.ratchet sender)) {incoming : Nat}
    (inside : InEpoch (epochs ++ added) sender position incoming source)
    (later : (leaked.sent sender).length ≤ position) : number ≤ incoming := by
  by_contra less
  have mailbox := delivery.mailbox sender number epoch found seat.rootSequence
  have before := inside.before_start starts (Window.getElem?_kept found added) seat.owned
    (Nat.lt_of_not_le less)
  have started := mailbox.started
  omega

/-- The leaked sending chain leads to the later messages of the party in its epoch. -/
theorem Delivery.exposes_own (delivery : Delivery cipherSuite ad keys epochs leaked)
    (found : epochs[number]? = some epoch)
    (seat : Seat cipherSuite keys party number epoch (leaked.ratchet party))
    (later : (leaked.sent party).length ≤ position) :
    LeakExposes cipherSuite leaked net party
      (cipherSuite.keyAt (epoch.chain, position - epoch.start)) := by
  have mailbox := delivery.mailbox party number epoch found seat.rootSequence
  refine derives_keyAt ((leaked.sent party).length - epoch.start) (by omega) ?_
  exact .known (Or.inl (Or.inr (Or.inl
    ⟨_, mailbox.sender, Or.inr (Or.inr ⟨_, rfl, rfl⟩)⟩)))

/-- The leaked receiving chain leads to the later messages of the other party in the epoch
before. -/
theorem Delivery.exposes_previous (delivery : Delivery cipherSuite ad keys epochs leaked)
    (found : epochs[number + 1]? = some epoch)
    (seat : Seat cipherSuite keys party (number + 1) epoch (leaked.ratchet party))
    (foundSource : epochs[number]? = some source)
    (later : (leaked.sent party.peer).length ≤ position) :
    LeakExposes cipherSuite leaked net party
      (cipherSuite.keyAt (source.chain, position - source.start)) := by
  have mailbox := delivery.mailbox party (number + 1) epoch found seat.rootSequence
  have within := mailbox.within
  obtain ⟨previous, foundPrevious, -, chain⟩ := mailbox.chain
  rw [foundSource, Option.some.injEq] at foundPrevious
  subst foundPrevious
  refine derives_keyAt (Window.highest (leaked.delivered party) - source.start) (by omega) ?_
  exact .known (Or.inl (Or.inr (Or.inr (Or.inl
    ⟨_, chain, Or.inr (Or.inr ⟨_, rfl, rfl⟩)⟩))))

/-- The leaked root key and private key lead to the messages of the next epoch. -/
theorem Seat.exposes_next
    (seat : Seat cipherSuite keys party number epoch (leaked.ratchet party))
    (follows : Epoch.Follows cipherSuite (keys party).privateKey epoch source)
    (announced : source.key ∈ net.wire) :
    LeakExposes cipherSuite leaked net party
      (cipherSuite.keyAt (source.chain, position - source.start)) := by
  obtain ⟨receiverChain, receiver, secret⟩ := Option.map_eq_some_iff.mp seat.privateKey
  have opened : Deduction.Derives (Evaluates cipherSuite)
      ((leaked.ratchet party).fields ∪ net.wire)
      (cipherSuite.kem.decaps (keys party).privateKey source.key) := by
    refine .apply (.decaps _ _) ?_
    intro premise member
    simp only [List.mem_cons, List.not_mem_nil, or_false] at member
    rcases member with rfl | rfl
    · exact .known (Or.inl (Or.inr (Or.inr (Or.inl
        ⟨receiverChain, by simp [receiver], Or.inr (Or.inl secret.symm)⟩))))
    · exact .known (Or.inr announced)
  refine derives_keyAt 0 (Nat.zero_le _) ?_
  rw [Function.iterate_zero_apply, follows.2]
  refine .apply (.derive (.nextChain _ _)) ?_
  intro premise member
  simp only [Derivation.inputs, List.mem_cons, List.not_mem_nil, or_false] at member
  rcases member with rfl | rfl
  · exact .known (Or.inl (Or.inl seat.rootKey.symm))
  · exact opened

/-- The leaked ratchet leads to every later message that is at most one epoch ahead of it. -/
theorem Delivery.exposes_early (delivery : Delivery cipherSuite ad keys epochs leaked)
    (extended : Delivery cipherSuite ad keys (epochs ++ added) net)
    (found : epochs[number]? = some epoch)
    (seat : Seat cipherSuite keys party number epoch (leaked.ratchet party)) {incoming : Nat}
    (inside : InEpoch (epochs ++ added) sender position incoming source)
    (later : (leaked.sent sender).length ≤ position) (early : incoming ≤ number + 1)
    (announced : source.key ∈ net.wire) :
    LeakExposes cipherSuite leaked net party
      (cipherSuite.keyAt (source.chain, position - source.start)) := by
  have foundSource := inside.found
  have known := Window.getElem?_kept found added
  rcases Party.eq_or_peer sender party with rfl | rfl
  · have reached := delivery.sent_later extended.starts found seat inside later
    have parity := (owner_eq_iff _ _).mp (inside.owned.trans seat.owned.symm)
    have same : incoming = number := by omega
    rw [same, known, Option.some.injEq] at foundSource
    subst foundSource
    exact delivery.exposes_own found seat later
  · obtain ⟨peerNumber, peerEpoch, peerFound, near, peerSeat⟩ :=
      delivery.lockstep.seats party.peer
    have reached := delivery.sent_later extended.starts peerFound peerSeat inside later
    have bound := (List.getElem?_eq_some_iff.mp found).1
    have different : incoming % 2 ≠ number % 2 := by
      intro parity
      have same := (owner_eq_iff _ _).mpr parity
      rw [inside.owned, seat.owned] at same
      exact Party.peer_ne party same
    rcases (by omega : incoming = number + 1 ∨ number = incoming + 1) with rfl | rfl
    · refine seat.exposes_next ?_ announced
      rw [← seat.owned]
      exact extended.lockstep.follows number epoch source known foundSource
    · rw [List.getElem?_append_left (by omega)] at foundSource
      exact delivery.exposes_previous found seat foundSource later

end Leak

section Healing

variable {sharedSecret : Bytes β} {coins : Party → Bytes β} {start : Net β}

theorem firstEpochs_named (sharedSecret : Bytes β) (coins : Party → Bytes β) :
    Named cipherSuite keys (firstEpochs cipherSuite sharedSecret keys coins) := by
  intro number epoch found
  match number with
  | 0 =>
      cases found
      exact ⟨coins .bob, rfl⟩
  | 1 =>
      cases found
      exact ⟨coins .alice, rfl⟩
  | number + 2 => simp [firstEpochs] at found

/-- Epochs that decryptions start are named by encapsulations. -/
theorem Named.append {events : List (NetEvent β)} {epochs added : List (Epoch β)}
    (named : Named cipherSuite keys epochs)
    (started : StartedBy cipherSuite keys events epochs.length (epochs ++ added)) :
    Named cipherSuite keys (epochs ++ added) := by
  intro number epoch found
  by_cases early : number < epochs.length
  · rw [List.getElem?_append_left early] at found
    exact named number epoch found
  · obtain ⟨position, coins, -, key⟩ := started number epoch (Nat.le_of_not_lt early) found
    exact ⟨coins, key⟩

/-- The leaked ratchet leads to no later message that is more than one epoch ahead of it. -/
theorem Delivery.exposed_early (free : cipherSuite.Free) (oneWay : cipherSuite.OneWay)
    (setting : Setting cipherSuite ad keys) {before after : List (NetEvent β)}
    {epochs added : List (Epoch β)} {leaked net : Net β} {party sender : Party}
    {number incoming position : Nat} {epoch source : Epoch β}
    (sheltered : Sheltered cipherSuite sharedSecret keys party before after)
    (delivery : Delivery cipherSuite ad keys epochs leaked)
    (extended : Delivery cipherSuite ad keys (epochs ++ added) net)
    (named : Named cipherSuite keys epochs)
    (started : StartedBy cipherSuite keys after epochs.length (epochs ++ added))
    (first : ∀ epoch, epochs[0]? = some epoch →
      epoch.root = cipherSuite.initialRoot sharedSecret ∧
        epoch.chain = cipherSuite.initialChain sharedSecret)
    (distinct : (epochs.map Epoch.key ++
      after.filterMap (NetEvent.ciphertext cipherSuite keys)).Nodup)
    (given : ∀ sender, ∀ entry ∈ net.sent sender,
      NetEvent.encrypt sender (some entry.plaintext) ∈ before ++ after)
    (near : epochs.length ≤ number + 2)
    (seat : Seat cipherSuite keys party number epoch (leaked.ratchet party))
    (inside : InEpoch (epochs ++ added) sender position incoming source)
    (exposes : LeakExposes cipherSuite leaked net party
      (cipherSuite.keyAt (source.chain, position - source.start))) : incoming ≤ number + 1 := by
  by_contra ahead
  have owned : owner (number + 2) = party := by
    rw [← seat.owned, owner_eq_iff]
    omega
  obtain ⟨-, chain⟩ := tainted_epochs setting extended.lockstep (Nat.succ_pos _) owned
    (fun place other reached => started place other (near.trans reached)) (by omega) source
    inside.found
  have unaffected := sheltered.unaffected free oneWay setting delivery.lockstep named first
    fun other member inAfter => (List.nodup_append.mp distinct).2.2 _
      (List.mem_map_of_mem member) _ inAfter rfl
  have known : (leaked.ratchet party).fields ∪ net.wire ⊆
      Unaffected cipherSuite keys party after :=
    Set.union_subset (sheltered.fields free oneWay delivery named unaffected)
      (sheltered.wire free oneWay extended (named.append started) given)
  exact Untainted.clean (exposes.mem_of_closed
    (untainted_closed free oneWay sheltered.atomic) known) (tainted_keyAt _ chain)

variable [DecidableEq β]

/-- From the ratchet of a party at one time and from the whole wire, an observer derives the key of
a later message of either party exactly when its root sequence is at most one ahead of that ratchet,
also when messages are repeated. -/
theorem runNet_heals_iff (free : cipherSuite.Free) (oneWay : cipherSuite.OneWay)
    (matched : MatchedStart cipherSuite sharedSecret keys coins start) (adPresent : ad ≠ [])
    (before after : List (NetEvent β))
    (fresh : (netCiphertexts cipherSuite keys coins (before ++ after)).Nodup)
    (guarded : Machine.Along (stepNet cipherSuite ad) (fun net event =>
      (stepNet cipherSuite ad net event).Bounded ∧ NoWrap cipherSuite ad net event) start
        (before ++ after))
    (party : Party) (sheltered : Sheltered cipherSuite sharedSecret keys party before after) :
    let leaked := runNet cipherSuite ad start before
    let net := runNet cipherSuite ad start (before ++ after)
    ∀ sender position entry payload, (leaked.sent sender).length ≤ position →
      (net.sent sender)[position]? = some entry → entry.payload = some payload →
      ∀ ad' key plaintext, cipherSuite.se.decrypt ad' key payload.ciphertext = some plaintext →
        (LeakExposes cipherSuite leaked net party key ↔
          payload.rootSequence.toNat ≤ (leaked.ratchet party).rootSequence.toNat + 1) := by
  intro leaked net sender position entry payload later atPosition present ad' key plaintext opened
  have setting := matched.setting adPresent free.correct
  obtain ⟨early, late⟩ := (Machine.along_append _ _ _ _ _).mp guarded
  have moved : net = runNet cipherSuite ad leaked after := Machine.run_append _ _ _ _
  have names : ((firstEpochs cipherSuite sharedSecret keys coins).map Epoch.key ++
      (before.filterMap (NetEvent.ciphertext cipherSuite keys) ++
        after.filterMap (NetEvent.ciphertext cipherSuite keys))).Nodup := by
    rw [netCiphertexts, List.filterMap_append] at fresh
    exact fresh
  obtain ⟨addedBefore, leakedOnce, repeating, distinct, startedBefore⟩ :=
    (Repeating.start free.keys matched).run_extends free setting before names early
  have named := (firstEpochs_named sharedSecret coins).append startedBefore
  have first : ∀ epoch, (firstEpochs cipherSuite sharedSecret keys coins ++ addedBefore)[0]? =
      some epoch → epoch.root = cipherSuite.initialRoot sharedSecret ∧
        epoch.chain = cipherSuite.initialChain sharedSecret := by
    rintro epoch ⟨⟩
    exact ⟨rfl, rfl⟩
  generalize firstEpochs cipherSuite sharedSecret keys coins ++ addedBefore = epochs
    at repeating distinct named first
  have distinctAfter : (epochs.map Epoch.key ++
      (after.filterMap (NetEvent.ciphertext cipherSuite keys) ++ [])).Nodup := by
    rw [List.append_nil]
    exact distinct
  obtain ⟨added, once, extended, -, started⟩ :=
    repeating.run_extends free setting after distinctAfter late
  have sameRatchet : leaked.ratchet = leakedOnce.ratchet := repeating.ratchet
  have sameLeaked : leaked.sent = leakedOnce.sent := repeating.sent
  have sameSent : net.sent = once.sent := by
    rw [moved]
    exact extended.sent
  have delivery := repeating.delivery
  obtain ⟨number, epoch, found, near, seat⟩ := delivery.lockstep.seats party
  rw [sameLeaked] at later
  rw [sameSent] at atPosition
  obtain ⟨incoming, source, inside, sentOn⟩ :=
    extended.delivery.outbox sender position entry atPosition payload present
  obtain ⟨-, sameKey, -⟩ :=
    free.ideal _ _ _ _ _ _ _ (free.correct _ _ _ _ sentOn.encrypted) opened
  have given : ∀ sender, ∀ entry ∈ once.sent sender,
      NetEvent.encrypt sender (some entry.plaintext) ∈ before ++ after := by
    rw [← sameSent]
    exact runNet_sent matched.unsent (before ++ after)
  rw [LeakExposes, Net.wire, sameRatchet, sameSent, sentOn.rootSequence, seat.rootSequence,
    ← sameKey]
  constructor
  · exact delivery.exposed_early free oneWay setting sheltered extended.delivery named started first
      distinct given near seat inside
  · intro reached
    refine delivery.exposes_early extended.delivery found seat inside later reached ?_
    exact ⟨sender, entry, List.mem_of_getElem? atPosition, payload, present,
      Or.inl sentOn.ratchetKey.symm⟩

end Healing

namespace Symbolic

/-- In the rest of the exchange both parties receive a message again that they have read. -/
def repeatedExchange : List (NetEvent FreeTerm) :=
  [.decrypt .bob 1 [.byte 30], .decrypt .bob 1 [.byte 34], .encrypt .bob (some [.byte 22]),
    .decrypt .alice 0 [.byte 31], .decrypt .alice 0 [.byte 35], .encrypt .alice (some [.byte 23]),
    .decrypt .bob 2 [.byte 32], .decrypt .bob 0 [.byte 33]]

/-- An inert value that Bob cannot open with and that is not a fresh coin is unaffected. -/
theorem exchange_unaffected {value : Bytes FreeTerm} (inert : symbolicSuite.Inert value)
    (coins : value ≠ [.byte 31] ∧ value ≠ [.byte 35])
    (privateKey : value ≠ (partyKeys .bob).privateKey)
    (secret : ∀ others, value ≠ (symbolicSuite.kem.encapsulate others
      (partyKeys .bob).publicKey).1) :
    value ∈ Unaffected symbolicSuite partyKeys .alice repeatedExchange := by
  refine untainted_of_unopened inert.unopened ?_
  intro tainted
  rcases tainted.of_inert inert with ⟨position, member⟩ | matching | ⟨others, -, same⟩
  · simp [repeatedExchange] at member
    tauto
  · obtain ⟨seed, rfl, same⟩ := matching_head matching
    refine privateKey ?_
    cases same
    rfl
  · exact secret others same

theorem exchange_sheltered :
    Sheltered symbolicSuite sharedSecret partyKeys .alice (exchange.take 2) repeatedExchange where
  atomic := by
    rintro coins ⟨position, member⟩
    simp [repeatedExchange] at member
    rcases member with ⟨-, rfl⟩ | ⟨-, rfl⟩ <;> exact atomic_of_head (Or.inl ⟨_, rfl⟩)
  empty := exchange_unaffected symbolicSuite_freePrimitives.empty (by simp) (by decide)
    (by simp [symbolicSuite, kemSuite, KemSuite.encapsulate])
  sharedSecret := exchange_unaffected (inert_of_head rfl rfl) (by decide) (by decide)
    (by simp [sharedSecret, symbolicSuite, kemSuite, KemSuite.encapsulate])
  publicKey other := by
    cases other <;> exact exchange_unaffected (inert_of_head rfl rfl) (by decide) (by decide)
      (by simp [partyKeys, keyPair, symbolicSuite, kemSuite, KemSuite.encapsulate])
  privateKey := exchange_unaffected (inert_of_head rfl rfl) (by decide) (by decide)
    (by simp [partyKeys, keyPair, symbolicSuite, kemSuite, KemSuite.encapsulate])
  plaintexts sender data member := by
    have bytes : data = [.byte 20] ∨ data = [.byte 21] ∨ data = [.byte 22] ∨
        data = [.byte 23] := by
      simp [exchange, repeatedExchange] at member
      tauto
    rcases bytes with rfl | rfl | rfl | rfl <;>
      exact exchange_unaffected (inert_of_head rfl rfl) (by decide) (by decide)
        (by simp [symbolicSuite, kemSuite, KemSuite.encapsulate])

/-- The recorded key opens the payload at a position, whose root sequence is returned. -/
def opensAt (net : Net FreeTerm) (sender : Party) (position : Nat) : Option (Bool × UInt32) :=
  (net.sent sender)[position]?.bind fun entry => entry.payload.map fun payload =>
    (decide (symbolicSuite.se.decrypt associatedData entry.messageKey payload.ciphertext =
      some entry.plaintext), payload.rootSequence)

theorem opensAt_some {net : Net FreeTerm} {sender : Party} {position : Nat}
    {rootSequence : UInt32} (opens : opensAt net sender position = some (true, rootSequence)) :
    ∃ entry payload, (net.sent sender)[position]? = some entry ∧ entry.payload = some payload ∧
      symbolicSuite.se.decrypt associatedData entry.messageKey payload.ciphertext =
        some entry.plaintext ∧ payload.rootSequence = rootSequence := by
  obtain ⟨entry, found, same⟩ := Option.bind_eq_some_iff.mp opens
  obtain ⟨payload, present, both⟩ := Option.map_eq_some_iff.mp same
  rw [Prod.mk.injEq, decide_eq_true_eq] at both
  exact ⟨entry, payload, found, present, both.1, both.2⟩

end Symbolic

/-- The ratchet of Alice before she reads reveals the answer of Bob, but not her next message, which
follows a second delivery of the answer. -/
theorem repeatedExchange_heals :
    let leaked := runNet symbolicSuite Symbolic.associatedData Symbolic.net
      (Symbolic.exchange.take 2)
    let net := runNet symbolicSuite Symbolic.associatedData Symbolic.net
      (Symbolic.exchange.take 2 ++ Symbolic.repeatedExchange)
    (∃ entry, (net.sent .bob)[0]? = some entry ∧
        LeakExposes symbolicSuite leaked net .alice entry.messageKey) ∧
      ∃ entry, (net.sent .alice)[2]? = some entry ∧
        ¬ LeakExposes symbolicSuite leaked net .alice entry.messageKey := by
  intro leaked net
  have heals := runNet_heals_iff symbolicSuite_freePrimitives symbolicSuite_oneWay
    Symbolic.net_matched (by decide : Symbolic.associatedData ≠ []) (Symbolic.exchange.take 2)
    Symbolic.repeatedExchange (by decide +kernel) (by decide +kernel) .alice
    Symbolic.exchange_sheltered
  have reached : (leaked.ratchet .alice).rootSequence = 1 := by decide +kernel
  obtain ⟨answer, first, atFirst, present, opens, second⟩ :=
    Symbolic.opensAt_some (by decide +kernel : Symbolic.opensAt net .bob 0 = some (true, 2))
  obtain ⟨message, last, atLast, present', opens', third⟩ :=
    Symbolic.opensAt_some (by decide +kernel : Symbolic.opensAt net .alice 2 = some (true, 3))
  refine ⟨⟨answer, atFirst, ?_⟩, message, atLast, ?_⟩
  · refine (heals .bob 0 answer first (by decide +kernel) atFirst present _ _ _ opens).mpr ?_
    rw [second, reached]
    decide
  · rw [heals .alice 2 message last (by decide +kernel) atLast present' _ _ _ opens', third,
      reached]
    decide

end E2eeSecurity
