/-
This file shows that a ratchet opens a message at most once.
-/
import E2eeSecurity.Ratchet.Calls

namespace E2eeSecurity

variable {β : Type} {cipherSuite : CipherSuite β} [DecidableEq β]

/-- A key that opened a ciphertext is used, so no later key opens the same ciphertext. -/
theorem Tracks.opens_once (free : cipherSuite.FreeKeys) (ideal : cipherSuite.se.Ideal)
    {sharedSecret : Bytes β} {ratchet : Ratchet β} {history : KeyHistory β}
    (tracks : Tracks cipherSuite sharedSecret ratchet history) {place : Bytes β × Nat}
    (used : place ∈ history.ledger.used) {ad ad' plaintext : Bytes β}
    {payload : One2oneMsgPayload β}
    (opened : cipherSuite.se.decrypt ad (cipherSuite.keyAt place) payload.ciphertext =
      some plaintext) (coins : Bytes β) :
    (decryptRatchet cipherSuite ratchet ad' payload coins).1 = none := by
  obtain ⟨next, tracked, ⟨-, kept⟩, opens⟩ := tracks.decrypt free ad' payload coins
  cases result : (decryptRatchet cipherSuite ratchet ad' payload coins).1 with
  | none => rfl
  | some plaintext' =>
      obtain ⟨place', unused, used', opened'⟩ := opens plaintext' result
      obtain ⟨-, sameKey, -⟩ := ideal _ _ _ _ _ _ _ opened opened'
      have samePlace := keyAt_inj free (tracked.within.used place (kept used))
        (tracked.within.used place' used') sameKey
      rw [samePlace] at used
      exact absurd used unused

/-- After a message was opened, no call on the same ratchet key, sequence, and ciphertext succeeds,
whatever the other header fields are and whatever calls came between. -/
theorem decryptRatchet_no_replay (free : cipherSuite.FreeKeys) (ideal : cipherSuite.se.Ideal)
    {start : RatchetStart β} {ratchet : Ratchet β}
    (made : start.initialise cipherSuite = some ratchet) (before between : List (RatchetCall β))
    {ad ad' coins coins' plaintext : Bytes β} {payload again : One2oneMsgPayload β}
    (success : (decryptRatchet cipherSuite (runCalls cipherSuite ratchet before) ad payload
      coins).1 = some plaintext) :
    again.ratchetKey = payload.ratchetKey → again.sequence = payload.sequence →
      again.ciphertext = payload.ciphertext →
      (decryptRatchet cipherSuite (runCalls cipherSuite (decryptRatchet cipherSuite
        (runCalls cipherSuite ratchet before) ad payload coins).2 between) ad' again coins').1 =
          none := by
  intro _ _ sameCiphertext
  obtain ⟨history, started, -⟩ := RatchetStart.tracks free made
  obtain ⟨first, firstTracks, -⟩ := started.run free before
  obtain ⟨second, secondTracks, -, opens⟩ := firstTracks.decrypt free ad payload coins
  obtain ⟨place, -, used, opened⟩ := opens plaintext success
  obtain ⟨third, thirdTracks, -, kept⟩ := secondTracks.run free between
  rw [← sameCiphertext] at opened
  exact thirdTracks.opens_once free ideal (kept used) opened coins'

/-- Bob opens the first message of Alice, and a copy with other totals is refused. -/
theorem firstPayload_no_replay :
    (decryptRatchet symbolicSuite Symbolic.bob Symbolic.associatedData Symbolic.firstPayload
        [.byte 6]).1 = some [.byte 5] ∧
      (decryptRatchet symbolicSuite (decryptRatchet symbolicSuite Symbolic.bob
        Symbolic.associatedData Symbolic.firstPayload [.byte 6]).2 Symbolic.associatedData
        { Symbolic.firstPayload with sendingMessageSequence := 9 } [.byte 6]).1 = none := by
  have opened : (decryptRatchet symbolicSuite Symbolic.bob Symbolic.associatedData
      Symbolic.firstPayload [.byte 6]).1 = some [.byte 5] := by decide +kernel
  exact ⟨opened, decryptRatchet_no_replay symbolicSuite_free symbolicSuite_ideal
    Symbolic.bobStart_made [] [] opened rfl rfl rfl⟩

end E2eeSecurity
