import EdsTelepathy.Backend.Batch
import EdsTelepathy.Lib.Batch
import EdsTelepathy.Proof.Readded

/-!
# The answer to a batch

The vcards are queued in reverse, worked through in that order, and the contacts come back in
reverse again, so each contact stands where its vcard stood. A call that fails empties the
list and sets `status`; the answer is an error only if `status_ok` was cleared, which no failing
call does.
-/

namespace EdsTelepathy

section Answer

variable {σ α β : Type}

theorem queueVcards_eq (vcards : List α) : queueVcards vcards = vcards.reverse := by
  unfold queueVcards
  rw [List.foldl_flip_cons_eq_append', List.append_nil]

/-- The calls that are made for a batch; none where the request is refused. -/
def callsMade (run : σ → α → Option β × σ) (refusal : Option Refusal) (s : σ) (vcards : List α) :
    List (α × Option β) :=
  match refusal with
  | some _ => []
  | none => Batch.calls run s (queueVcards vcards)

/-- **The loop collects the contacts of a batch that is served**, in the opposite order. -/
theorem createLoop_served {run : σ → α → Option β × σ} {s : σ} {vcards : List α} {ys : List β}
    (h : Batch.Served (Batch.calls run s vcards) vcards ys) (econtacts : List β) :
    (createLoop run s econtacts vcards).1 = none
      ∧ (createLoop run s econtacts vcards).2.1 = ys.reverse ++ econtacts := by
  induction vcards generalizing s ys econtacts with
  | nil =>
    obtain ⟨-, rfl⟩ := Batch.served_nil.mp h
    exact ⟨rfl, rfl⟩
  | cons v rest ih =>
    unfold Batch.calls at h
    unfold createLoop
    rcases hrun : run s v with ⟨_ | y, s'⟩
    · rw [hrun] at h
      obtain ⟨z, zs, -, hz, -⟩ := List.map_eq_cons_iff.mp h.outcomes.symm
      cases hz
    · rw [hrun] at h
      dsimp only at h ⊢
      obtain ⟨z, zs, rfl, hz, hzs⟩ := List.map_eq_cons_iff.mp h.outcomes.symm
      cases hz
      have hrest : Batch.Served (Batch.calls run s' rest) rest zs :=
        ⟨List.cons_injective h.inputs, hzs.symm⟩
      obtain ⟨hstatus, hcontacts⟩ := ih hrest (y :: econtacts)
      exact ⟨hstatus, by rw [hcontacts, List.reverse_cons, List.append_assoc]; rfl⟩

/--
The answer tells the truth about the calls: it is a success exactly if every vcard of the batch
was served, and then its contacts are those of the vcards, in their order.
-/
structure TruthfulAnswer (vcards : List α) (calls : List (α × Option β)) (answer : CreateAnswer β) :
    Prop where
  success : answer.error = none ↔ ∃ ys, Batch.Served calls.reverse vcards ys
  contacts : ∀ ys, answer.error = none → Batch.Served calls.reverse vcards ys →
    answer.econtacts = ys

/-- A refused request is answered with an error, and any other one with a success. -/
theorem answerCreate_error (run : σ → α → Option β × σ) (refusal : Option Refusal) (s : σ)
    (vcards : List α) :
    (answerCreate run refusal s vcards).1.error = none ↔ refusal = none := by
  rcases refusal with _ | _ | _
  · exact iff_of_true rfl rfl
  · exact iff_of_false (fun h => by cases h) (fun h => by cases h)
  · exact iff_of_false (fun h => by cases h) (fun h => by cases h)

/-- The batch is served as submitted exactly if it is served as queued. -/
theorem served_submitted {calls : List (α × Option β)} {vcards : List α} {ys : List β} :
    Batch.Served calls.reverse vcards ys ↔ Batch.Served calls (queueVcards vcards) ys.reverse := by
  rw [queueVcards_eq]
  constructor
  · intro h
    have hrev := h.reverse
    rwa [List.reverse_reverse] at hrev
  · intro h
    have hrev := h.reverse
    rwa [List.reverse_reverse, List.reverse_reverse] at hrev

/--
**When the answer to a batch is truthful.** It is if and only if the request is taken up and no
call fails, or it is refused and there is a vcard in it.
-/
theorem create_answer_truthful (run : σ → α → Option β × σ) (refusal : Option Refusal) (s : σ)
    (vcards : List α) :
    TruthfulAnswer vcards (callsMade run refusal s vcards) (answerCreate run refusal s vcards).1
      ↔ (refusal = none ∧ ∀ c ∈ callsMade run refusal s vcards, c.2 ≠ none)
        ∨ (refusal ≠ none ∧ vcards ≠ []) := by
  have herror := answerCreate_error run refusal s vcards
  cases refusal with
  -- a request that is refused makes no call, so it serves an empty batch alone
  | some why =>
    have hserved : (∃ ys, Batch.Served (callsMade run (some why) s vcards).reverse vcards ys)
        ↔ vcards = [] := by
      constructor
      · rintro ⟨ys, h⟩
        exact (Batch.served_nil.mp h).1
      · intro h
        exact ⟨[], h.symm, rfl⟩
    have hno : ¬ (answerCreate run (some why) s vcards).1.error = none := fun h => by
      cases herror.mp h
    constructor
    · intro h
      exact .inr ⟨Option.some_ne_none why, fun hempty => hno (h.success.mpr (hserved.mpr hempty))⟩
    · rintro (⟨h, -⟩ | ⟨-, hvcards⟩)
      · cases h
      · exact ⟨iff_of_false hno fun h => hvcards (hserved.mp h), fun _ h => absurd h hno⟩
  | none =>
    -- a request that is taken up reports no error, whatever fails
    have hyes : (answerCreate run none s vcards).1.error = none := herror.mpr rfl
    have hserved : (∃ ys, Batch.Served (callsMade run none s vcards).reverse vcards ys)
        ↔ ∀ c ∈ callsMade run none s vcards, c.2 ≠ none := by
      rw [callsMade, ← Batch.exists_served_iff]
      constructor
      · rintro ⟨ys, h⟩
        exact ⟨_, served_submitted.mp h⟩
      · rintro ⟨ys, h⟩
        exact ⟨ys.reverse, served_submitted.mpr (by rwa [List.reverse_reverse])⟩
    constructor
    · intro h
      exact .inl ⟨rfl, hserved.mp (h.success.mp hyes)⟩
    · rintro (⟨-, hcalls⟩ | ⟨h, -⟩)
      · refine ⟨iff_of_true hyes (hserved.mpr hcalls), fun ys _ h => ?_⟩
        have hcontacts := (createLoop_served (served_submitted.mp h) []).2
        rw [List.reverse_reverse, List.append_nil] at hcontacts
        exact hcontacts
      · exact absurd rfl h

end Answer

namespace Backend

/-- A vcard without an address fails, and changes no contact. -/
theorem createOne_unnamed (s : Contact.Surroundings) (b : Backend) {ec : Contact.EVCard}
    (h : Contact.cardName b.vcardField ec none = none ∨ Contact.cardName b.vcardField ec none = some "") :
    (createOne s b ec).1 = none ∧ (createOne s b ec).2.book = b.book := by
  have hname : (Contact.new.updateFromEcontact ec b.vcardField).2.name
      = Contact.cardName b.vcardField ec none := by
    rw [Contact.decoded_eq]
    rfl
  have hrejected : (Contact.new.updateFromEcontact ec b.vcardField).1 = false := by
    show ((Contact.new.updateFromEcontact ec b.vcardField).2.name ≠ none
      && (Contact.new.updateFromEcontact ec b.vcardField).2.name ≠ some "") = false
    rw [hname]
    rcases h with h | h <;> simp [h]
  unfold createOne runCreateContact
  dsimp only
  generalize Contact.new.updateFromEcontact ec b.vcardField = card at hrejected
  obtain ⟨ok, c⟩ := card
  obtain rfl : ok = false := hrejected
  exact ⟨rfl, rfl⟩

/-- A vcard with an address, and one without. -/
def bobAndEve : List Contact.EVCard :=
  [[{ name := "X-JABBER", values := ["bob"] }], [{ name := "NICKNAME", values := ["Eve"] }]]

/-- The request is answered with a success and no contact, and the first vcard is not even tried. -/
theorem create_answer_of_unnamed :
    ((boot "acct" "X-JABBER" {}).createContacts { vcardField := "X-JABBER" } none bobAndEve).1
        = { error := none, econtacts := [] }
      ∧ ((boot "acct" "X-JABBER" {}).createContacts { vcardField := "X-JABBER" } none
        bobAndEve).2.book.nameToContact.lookup (some "bob") = none
      ∧ ¬ TruthfulAnswer bobAndEve
        (callsMade (createOne { vcardField := "X-JABBER" }) none (boot "acct" "X-JABBER" {}) bobAndEve)
        ((boot "acct" "X-JABBER" {}).createContacts { vcardField := "X-JABBER" } none bobAndEve).1 := by
  have hanswer : ((boot "acct" "X-JABBER" {}).createContacts { vcardField := "X-JABBER" } none
      bobAndEve).1 = { error := none, econtacts := [] } := by decide +kernel
  refine ⟨hanswer, by decide +kernel, fun h => ?_⟩
  obtain ⟨ys, hserved⟩ := h.success.mp (by rw [hanswer])
  have hinputs := congrArg List.length hserved.inputs
  revert hinputs
  decide +kernel

end Backend

end EdsTelepathy
