import EdsTelepathy.Proof.Indexes
import EdsTelepathy.Proof.Requested

/-!
# What `run_update_flags` reports

The function makes two calls for each list and answers `TRUE` or `FALSE`. The loop passes the
error of a call on and does not stop for it, and the connection is asked for after the first
call of a list but not after the second. So `TRUE` says no more than that the loop came to its
end, and an error is set for each call that failed.
-/

namespace EdsTelepathy

/-- The handles that a call is about. -/
def Request.handles : Request → List Nat
  | .addMembers _ hs | .removeMembers _ hs => hs
  | _ => []

namespace Wire

/-- Between the two states of the bus the call was made and answered so. -/
def Answered (w w' : Wire) (q : Request) (r : Reply) : Prop :=
  ∃ i, w'.sent[w.sent.length + i]? = some q ∧ w.replies.getD i Reply.lost = r

/-- Everything that was called and answered in between is as `P` says. -/
def AllAnswered (w w' : Wire) (P : Request → Reply → Prop) : Prop :=
  ∀ q r, Answered w w' q r → P q r

variable {w w' : Wire} {q : Request} {P : Request → Reply → Prop}

theorem sent_prefix_ask (w : Wire) (q : Request) : w.sent <+: (w.ask q).2.sent := List.prefix_append ..

theorem allAnswered_self (w : Wire) (P : Request → Reply → Prop) : AllAnswered w w P := by
  rintro q r ⟨i, hi, -⟩
  rw [List.getElem?_eq_none (by omega)] at hi
  cases hi

theorem getD_ask (w : Wire) (q : Request) (i : Nat) :
    (w.ask q).2.replies.getD i Reply.lost = w.replies.getD (i + 1) Reply.lost := by
  unfold ask
  cases w.replies <;> simp

/-- The first call, or one of those after it. -/
theorem answered_ask (hsent : (w.ask q).2.sent <+: w'.sent) {q' : Request} {r : Reply} :
    Answered w w' q' r ↔ q' = q ∧ r = (w.ask q).1 ∨ Answered (w.ask q).2 w' q' r := by
  obtain ⟨rest, hrest⟩ := hsent
  have hlen : (w.ask q).2.sent.length = w.sent.length + 1 := by simp [ask]
  have hfirst : w'.sent[w.sent.length + 0]? = some q := by
    rw [← hrest]
    simp [ask]
  have hreply : w.replies.getD 0 Reply.lost = (w.ask q).1 := by
    unfold ask
    cases w.replies <;> rfl
  have hindex : ∀ i, w.sent.length + 1 + i = w.sent.length + (i + 1) := fun i => by omega
  constructor
  · rintro ⟨_ | i, hi, hr⟩
    · rw [hfirst] at hi
      exact .inl ⟨(Option.some.inj hi).symm, hr.symm.trans hreply⟩
    · refine .inr ⟨i, ?_, ?_⟩
      · rw [hlen, hindex]
        exact hi
      · rw [getD_ask]
        exact hr
  · rintro (⟨rfl, rfl⟩ | ⟨i, hi, hr⟩)
    · exact ⟨0, hfirst, hreply⟩
    · refine ⟨i + 1, ?_, ?_⟩
      · rw [← hindex, ← hlen]
        exact hi
      · rw [← getD_ask w q]
        exact hr

theorem allAnswered_ask (hsent : (w.ask q).2.sent <+: w'.sent) :
    AllAnswered w w' P ↔ P q (w.ask q).1 ∧ AllAnswered (w.ask q).2 w' P := by
  unfold AllAnswered
  constructor
  · intro h
    exact ⟨h _ _ ((answered_ask hsent).mpr (.inl ⟨rfl, rfl⟩)),
      fun q' r hq => h q' r ((answered_ask hsent).mpr (.inr hq))⟩
  · rintro ⟨hfirst, hafter⟩ q' r hq
    rcases (answered_ask hsent).mp hq with ⟨rfl, rfl⟩ | hq
    · exact hfirst
    · exact hafter q' r hq

end Wire

namespace Cl

/-! ## The loop with its error -/

/-- Counting the errors changes neither the result nor the calls. -/
theorem reportFlagsLoop_eq (channels : ListId → Bool) (wanted : Flags) (contact : Contact)
    (ls : List ListId) (connected : Bool) (errors : Nat) (w : Wire) :
    ((reportFlagsLoop channels wanted contact ls connected errors w).1.ok,
        (reportFlagsLoop channels wanted contact ls connected errors w).2)
      = updateFlagsLoop channels wanted contact ls connected w := by
  induction ls generalizing connected errors w with
  | nil => rfl
  | cons l ls ih =>
    unfold reportFlagsLoop updateFlagsLoop
    dsimp only
    split
    · split
      · exact ih ..
      · rfl
    · exact ih ..

theorem reportUpdateFlags_eq (cl : Cl) (c : Contact) (w : Wire) :
    ((cl.reportUpdateFlags c w).1.ok, (cl.reportUpdateFlags c w).2) = cl.runUpdateFlags c w := by
  unfold reportUpdateFlags runUpdateFlags
  split
  · split
    · split
      · exact reportFlagsLoop_eq ..
      · rfl
    · rfl
  · rfl

theorem reportFlagsLoop_lost (channels : ListId → Bool) (wanted : Flags) (contact : Contact)
    (ls : List ListId) (errors : Nat) (w : Wire) :
    reportFlagsLoop channels wanted contact ls false errors w = ({ ok := true, errors := errors }, w) := by
  induction ls with
  | nil => rfl
  | cons l ls ih => exact ih

theorem reportFlagsLoop_sent (channels : ListId → Bool) (wanted : Flags) (contact : Contact)
    (ls : List ListId) (connected : Bool) (errors : Nat) (w : Wire) :
    w.sent <+: (reportFlagsLoop channels wanted contact ls connected errors w).2.sent := by
  induction ls generalizing connected errors w with
  | nil => exact List.prefix_refl _
  | cons l ls ih =>
    unfold reportFlagsLoop
    dsimp only
    split
    · split
      · exact ((w.sent_prefix_ask _).trans (Wire.sent_prefix_ask ..)).trans (ih ..)
      · exact w.sent_prefix_ask _
    · exact ih ..

/-! ## What the server has accepted -/

/-- The connection was up when the call returned, and a call that asked for something succeeded. -/
def WentThrough (q : Request) (r : Reply) : Prop :=
  r.connected = true ∧ (q.handles ≠ [] → r.ok = true)

/--
The change is accepted: the contact is one of the roster, the last call was made for each list
that has a channel, and all calls went through.
-/
structure Accepted (cl : Cl) (c : Contact) (w w' : Wire) : Prop where
  connected : cl.isConnected = true
  known : 0 < c.handle ∧ (cl.lookup c.handle).isSome = true
  visited : ∀ l, cl.channels l = true → ∃ hs r, w.Answered w' (.removeMembers l hs) r
  through : w.AllAnswered w' WentThrough

/-! ## When the report is right -/

/-- The contact is to be put on the list. -/
def joins (wanted flags : Flags) (l : ListId) : Bool :=
  wanted.has (l.flag .current) && !flags.has (l.flag .current)

/-- The contact is to be taken off the list. -/
def leaves (wanted flags : Flags) (l : ListId) : Bool :=
  flags.has (l.flag .current) && !wanted.has (l.flag .current)

section Loop

variable (channels : ListId → Bool)

/--
The connection stays up for all calls, and none of those that ask for something is refused. Each
list with a channel takes two replies.
-/
def Taken (wanted flags : Flags) : List ListId → List Reply → Prop
  | [], _ => True
  | l :: ls, rs =>
    if channels l then
      ((rs.headD Reply.lost).connected = true
        ∧ (joins wanted flags l = true → (rs.headD Reply.lost).ok = true))
      ∧ ((rs.tail.headD Reply.lost).connected = true
        ∧ (leaves wanted flags l = true → (rs.tail.headD Reply.lost).ok = true))
      ∧ Taken wanted flags ls rs.tail.tail
    else Taken wanted flags ls rs

/--
The connection goes away during the first call for some list, and neither that call nor one
before it is refused.
-/
def CutShort : List ListId → List Reply → Prop
  | [], _ => False
  | l :: ls, rs =>
    if channels l then
      (rs.headD Reply.lost).ok = true
      ∧ ((rs.headD Reply.lost).connected = false
        ∨ (rs.tail.headD Reply.lost).ok = true ∧ (rs.tail.headD Reply.lost).connected = true
          ∧ CutShort ls rs.tail.tail)
    else CutShort ls rs

end Loop

theorem handleIf_ne_nil {b : Bool} {h : Nat} : handleIf b h ≠ [] ↔ b = true := by
  cases b <;> simp [handleIf]

theorem wentThrough_add {l : ListId} {b : Bool} {h : Nat} {r : Reply} :
    WentThrough (.addMembers l (handleIf b h)) r ↔ r.connected = true ∧ (b = true → r.ok = true) :=
  and_congr_right fun _ => imp_congr_left handleIf_ne_nil

theorem wentThrough_remove {l : ListId} {b : Bool} {h : Nat} {r : Reply} :
    WentThrough (.removeMembers l (handleIf b h)) r ↔ r.connected = true ∧ (b = true → r.ok = true) :=
  and_congr_right fun _ => imp_congr_left handleIf_ne_nil

/-- How many errors are set once the reply is there. -/
def errorsAfter (r : Reply) (errors : Nat) : Nat := if r.ok then errors else errors + 1

theorem errorsAfter_of_ok {r : Reply} {errors : Nat} (h : r.ok = true) : errorsAfter r errors = errors :=
  if_pos h

theorem le_errorsAfter (r : Reply) (errors : Nat) : errors ≤ errorsAfter r errors := by
  unfold errorsAfter
  split <;> omega

theorem ok_of_errorsAfter {r : Reply} (errors : Nat) (h : errorsAfter r errors = errors) :
    r.ok = true := by
  by_contra hc
  have hmore : errorsAfter r errors = errors + 1 := if_neg hc
  omega

/-- What the loop comes to, from the state `w` of the bus to `w'`, with `errors` set before. -/
inductive LoopEnd (channels : ListId → Bool) (wanted flags : Flags) (ls : List ListId)
    (errors : Nat) (w w' : Wire) (report : FlagsReport) : Prop where
  /-- It went through the lists; how many errors were set does not show in the result. -/
  | finished : report.ok = true →
      (w.AllAnswered w' WentThrough ↔ Taken channels wanted flags ls w.replies) →
      ¬ CutShort channels ls w.replies → LoopEnd channels wanted flags ls errors w w' report
  /-- It found the connection gone. -/
  | cut : report.ok = false → ¬ w.AllAnswered w' WentThrough →
      ¬ Taken channels wanted flags ls w.replies → errors < report.errors →
      (report.errors = errors + 1 ↔ CutShort channels ls w.replies) →
      LoopEnd channels wanted flags ls errors w w' report

section Calls

variable {channels : ListId → Bool} {wanted flags : Flags} {ls : List ListId} {l : ListId}
  {h errors : Nat} {w w' : Wire} {report : FlagsReport} {add remove : List Nat}

/-- A list without a channel is passed over. -/
theorem LoopEnd.skip (hl : channels l ≠ true)
    (hrest : LoopEnd channels wanted flags ls errors w w' report) :
    LoopEnd channels wanted flags (l :: ls) errors w w' report := by
  have htaken : Taken channels wanted flags (l :: ls) w.replies = Taken channels wanted flags ls w.replies := by
    rw [Taken, if_neg hl]
  have hcut : CutShort channels (l :: ls) w.replies = CutShort channels ls w.replies := by
    rw [CutShort, if_neg hl]
  rcases hrest with ⟨hok, hall, hno⟩ | ⟨hok, hall, hno, hmore, hiff⟩
  · exact .finished hok (by rwa [htaken]) (by rwa [hcut])
  · exact .cut hok hall (by rwa [htaken]) hmore (by rwa [hcut])

/-- The connection is lost during the first call for a list. -/
theorem loopEnd_first (hl : channels l = true) (hgone : (w.replies.headD Reply.lost).connected = false) :
    LoopEnd channels wanted flags (l :: ls) errors w (w.ask (.addMembers l add)).2
      { ok := false, errors := errorsAfter (w.replies.headD Reply.lost) errors + 1 } := by
  have hle := le_errorsAfter (w.replies.headD Reply.lost) errors
  refine .cut rfl (fun hall => ?_) (fun htaken => ?_) (by dsimp only; omega) ?_
  · have hfirst := ((Wire.allAnswered_ask (List.prefix_refl _)).mp hall).1
    exact Bool.false_ne_true (hgone.symm.trans hfirst.1)
  · rw [Taken, if_pos hl] at htaken
    exact Bool.false_ne_true (hgone.symm.trans htaken.1.1)
  · rw [CutShort, if_pos hl]
    dsimp only
    constructor
    · intro he
      exact ⟨ok_of_errorsAfter errors (by omega), .inl hgone⟩
    · rintro ⟨hok, -⟩
      rw [errorsAfter_of_ok hok]

/-- It is lost during the second: nobody asks for it any more, and the other lists are passed over. -/
theorem loopEnd_second (hl : channels l = true)
    (hup : (w.replies.headD Reply.lost).connected = true)
    (hgone : (w.replies.tail.headD Reply.lost).connected = false) (report : FlagsReport)
    (hok : report.ok = true) :
    LoopEnd channels wanted flags (l :: ls) errors w
      ((w.ask (.addMembers l add)).2.ask (.removeMembers l remove)).2 report := by
  refine .finished hok ⟨fun hall => ?_, fun htaken => ?_⟩ fun hcut => ?_
  · have hafter := ((Wire.allAnswered_ask (Wire.sent_prefix_ask ..)).mp hall).2
    have hsecond := ((Wire.allAnswered_ask (List.prefix_refl _)).mp hafter).1
    exact absurd (hgone.symm.trans hsecond.1) Bool.false_ne_true
  · rw [Taken, if_pos hl] at htaken
    exact absurd (hgone.symm.trans htaken.2.1.1) Bool.false_ne_true
  · rw [CutShort, if_pos hl] at hcut
    rcases hcut.2 with hlost | ⟨-, hstill, -⟩
    · exact Bool.false_ne_true (hlost.symm.trans hup)
    · exact Bool.false_ne_true (hgone.symm.trans hstill)

/-- Both calls return with the connection up, and the loop goes on. -/
theorem LoopEnd.next (hl : channels l = true)
    (hadd : add = handleIf (joins wanted flags l) h) (hremove : remove = handleIf (leaves wanted flags l) h)
    (hup : (w.replies.headD Reply.lost).connected = true)
    (hstill : (w.replies.tail.headD Reply.lost).connected = true)
    (hsent : ((w.ask (.addMembers l add)).2.ask (.removeMembers l remove)).2.sent <+: w'.sent)
    (hrest : LoopEnd channels wanted flags ls
      (errorsAfter (w.replies.tail.headD Reply.lost) (errorsAfter (w.replies.headD Reply.lost) errors))
      ((w.ask (.addMembers l add)).2.ask (.removeMembers l remove)).2 w' report) :
    LoopEnd channels wanted flags (l :: ls) errors w w' report := by
  have hall : w.AllAnswered w' WentThrough ↔
      WentThrough (.addMembers l add) (w.replies.headD Reply.lost)
        ∧ WentThrough (.removeMembers l remove) (w.replies.tail.headD Reply.lost)
        ∧ ((w.ask (.addMembers l add)).2.ask (.removeMembers l remove)).2.AllAnswered w' WentThrough := by
    rw [Wire.allAnswered_ask ((Wire.sent_prefix_ask ..).trans hsent), Wire.allAnswered_ask hsent]
    rfl
  have htaken : Taken channels wanted flags (l :: ls) w.replies ↔
      WentThrough (.addMembers l add) (w.replies.headD Reply.lost)
        ∧ WentThrough (.removeMembers l remove) (w.replies.tail.headD Reply.lost)
        ∧ Taken channels wanted flags ls w.replies.tail.tail := by
    rw [Taken, if_pos hl, hadd, hremove]
    exact and_congr wentThrough_add.symm (and_congr wentThrough_remove.symm Iff.rfl)
  have hcut : CutShort channels (l :: ls) w.replies ↔ (w.replies.headD Reply.lost).ok = true
      ∧ (w.replies.tail.headD Reply.lost).ok = true ∧ CutShort channels ls w.replies.tail.tail := by
    rw [CutShort, if_pos hl, hup, hstill]
    simp only [Bool.true_eq_false, false_or, true_and]
  have hle := le_errorsAfter (w.replies.headD Reply.lost) errors
  have hle' := le_errorsAfter (w.replies.tail.headD Reply.lost)
    (errorsAfter (w.replies.headD Reply.lost) errors)
  rcases hrest with ⟨hok, hiff, hno⟩ | ⟨hok, hnot, hno, hmore, hiff⟩
  · exact .finished hok
      (hall.trans ((and_congr_right fun _ => and_congr_right fun _ => hiff).trans htaken.symm))
      fun hc => hno (hcut.mp hc).2.2
  · refine .cut hok (fun ha => hnot (hall.mp ha).2.2) (fun ht => hno (htaken.mp ht).2.2) (by omega) ?_
    rw [hcut]
    constructor
    · intro he
      exact ⟨ok_of_errorsAfter errors (by omega),
        ok_of_errorsAfter (errorsAfter (w.replies.headD Reply.lost) errors) (by omega),
        hiff.mp (by omega)⟩
    · rintro ⟨haok, hrok, hc⟩
      rw [hiff.mpr hc, errorsAfter_of_ok hrok, errorsAfter_of_ok haok]

end Calls

theorem loopEnd_reportFlagsLoop (channels : ListId → Bool) (wanted : Flags) (contact : Contact)
    (ls : List ListId) (errors : Nat) (w : Wire) :
    LoopEnd channels wanted contact.flags ls errors w
      (reportFlagsLoop channels wanted contact ls true errors w).2
      (reportFlagsLoop channels wanted contact ls true errors w).1 := by
  induction ls generalizing errors w with
  | nil => exact .finished rfl ⟨fun _ => trivial, fun _ => w.allAnswered_self _⟩ not_false
  | cons l ls ih =>
    by_cases hl : channels l = true
    · let add := handleIf (joins wanted contact.flags l) contact.handle
      let remove := handleIf (leaves wanted contact.flags l) contact.handle
      let a := w.replies.headD Reply.lost
      let r := w.replies.tail.headD Reply.lost
      let w₂ := ((w.ask (.addMembers l add)).2.ask (.removeMembers l remove)).2
      have hloop : reportFlagsLoop channels wanted contact (l :: ls) true errors w
          = if a.connected then
              reportFlagsLoop channels wanted contact ls r.connected
                (errorsAfter r (errorsAfter a errors)) w₂
            else ({ ok := false, errors := errorsAfter a errors + 1 }, (w.ask (.addMembers l add)).2) := by
        rw [reportFlagsLoop, hl]
        rfl
      rw [hloop]
      by_cases ha : a.connected = true
      · rw [if_pos ha]
        by_cases hr : r.connected = true
        · have hsent := reportFlagsLoop_sent channels wanted contact ls true
            (errorsAfter r (errorsAfter a errors)) w₂
          rw [hr]
          exact .next hl rfl rfl ha hr hsent (ih _ w₂)
        · rw [Bool.not_eq_true] at hr
          rw [hr, reportFlagsLoop_lost]
          exact loopEnd_second hl ha hr _ rfl
      · rw [if_neg ha]
        exact loopEnd_first hl ((Bool.not_eq_true _).mp ha)
    · have hskip : reportFlagsLoop channels wanted contact (l :: ls) true errors w
          = reportFlagsLoop channels wanted contact ls true errors w := by
        rw [reportFlagsLoop]
        exact if_neg (by simp [hl])
      rw [hskip]
      exact (ih errors w).skip hl

/-- Where all calls go through, the last one is made for each list with a channel. -/
theorem visited_reportFlagsLoop {channels : ListId → Bool} {wanted : Flags} {contact : Contact}
    {ls : List ListId} {errors : Nat} {w : Wire}
    (hall : w.AllAnswered (reportFlagsLoop channels wanted contact ls true errors w).2 WentThrough)
    {l : ListId} (hl : l ∈ ls) (hch : channels l = true) :
    ∃ hs r, w.Answered (reportFlagsLoop channels wanted contact ls true errors w).2
      (.removeMembers l hs) r := by
  induction ls generalizing errors w with
  | nil => cases hl
  | cons l' ls ih =>
    unfold reportFlagsLoop at hall ⊢
    dsimp only at hall ⊢
    by_cases hch' : channels l' = true
    · rw [hch', if_pos (by rfl)] at hall ⊢
      split at hall
      · rename_i hup
        rw [if_pos hup]
        have hsent := reportFlagsLoop_sent channels wanted contact ls
        have hafter := ((Wire.allAnswered_ask ((Wire.sent_prefix_ask ..).trans (hsent ..))).mp hall).2
        obtain ⟨hsecond, hrest⟩ := (Wire.allAnswered_ask (hsent ..)).mp hafter
        rcases List.mem_cons.mp hl with rfl | hl
        · exact ⟨_, _, (Wire.answered_ask ((Wire.sent_prefix_ask ..).trans (hsent ..))).mpr
            (.inr ((Wire.answered_ask (hsent ..)).mpr (.inl ⟨rfl, rfl⟩)))⟩
        · rw [hsecond.1] at hrest ⊢
          obtain ⟨hs, r, hanswered⟩ := ih hrest hl
          exact ⟨hs, r, (Wire.answered_ask ((Wire.sent_prefix_ask ..).trans (hsent ..))).mpr
            (.inr ((Wire.answered_ask (hsent ..)).mpr (.inr hanswered)))⟩
      · rename_i hgone
        exact absurd ((Wire.allAnswered_ask (List.prefix_refl _)).mp hall).1.1 hgone
    · have hskip : ¬ (true && channels l') = true := by simpa using hch'
      rw [if_neg hskip] at hall ⊢
      rcases List.mem_cons.mp hl with rfl | hl
      · exact absurd hch hch'
      · exact ih hall hl

/-- What the function reports, and what `modify_contact_idle_cb` makes of it, is what happened. -/
structure ReportsTruly (cl : Cl) (c : Contact) (w : Wire) : Prop where
  result : (cl.reportUpdateFlags c w).1.ok = true ↔ cl.Accepted c w (cl.reportUpdateFlags c w).2
  error : (cl.reportUpdateFlags c w).1.ok = false → (cl.reportUpdateFlags c w).1.errors = 1
  cleared : ∀ (b : Backend) (r : Nat), b.tpcl = cl → b.wire = w → b.book.contacts r = c →
    c.pendingFlags.has scheduleUpdateFlags = true →
    ((b.sendFlags r).book.contacts r).pendingFlags.has scheduleUpdateFlags = false →
    cl.Accepted c w (cl.reportUpdateFlags c w).2

/--
What keeps the report true, for a contact that the connected roster knows: no call is refused that
asks for something and the connection stays up, or the connection is lost in the first call for
a list and no call was refused until then.
-/
def ReportHolds (cl : Cl) (c : Contact) (w : Wire) : Prop :=
  ∀ x, cl.isConnected = true → 0 < c.handle → cl.lookup c.handle = some x →
    Taken cl.channels c.pendingFlags (cl.contacts x).flags ListId.all w.replies
      ∨ CutShort cl.channels ListId.all w.replies

theorem sendFlags_cleared {b : Backend} {r : Nat}
    (hset : (b.book.contacts r).pendingFlags.has scheduleUpdateFlags = true)
    (hcleared : ((b.sendFlags r).book.contacts r).pendingFlags.has scheduleUpdateFlags = false) :
    (b.tpcl.runUpdateFlags (b.book.contacts r) b.wire).1 = true := by
  unfold Backend.sendFlags at hcleared
  split at hcleared
  · generalize b.tpcl.runUpdateFlags (b.book.contacts r) b.wire = sent at hcleared ⊢
    obtain ⟨_ | _, w⟩ := sent
    · exact absurd (hset.symm.trans hcleared) (by decide)
    · rfl
  · exact absurd (hset.symm.trans hcleared) (by decide)

/-- A result that is right for the call is right for what the caller makes of it. -/
theorem reportsTruly_iff (cl : Cl) (c : Contact) (w : Wire) : cl.ReportsTruly c w ↔
    ((cl.reportUpdateFlags c w).1.ok = true ↔ cl.Accepted c w (cl.reportUpdateFlags c w).2)
      ∧ ((cl.reportUpdateFlags c w).1.ok = false → (cl.reportUpdateFlags c w).1.errors = 1) := by
  refine ⟨fun h => ⟨h.result, h.error⟩, fun h => ⟨h.1, h.2, ?_⟩⟩
  rintro b r rfl rfl rfl hset hcleared
  have hsent := sendFlags_cleared hset hcleared
  rw [← reportUpdateFlags_eq] at hsent
  exact h.1.mp hsent

/-- **`run_update_flags` reports what happened** where nothing goes wrong unnoticed. -/
theorem update_flags_reports (cl : Cl) (c : Contact) (w : Wire) :
    cl.ReportsTruly c w ↔ cl.ReportHolds c w := by
  rw [reportsTruly_iff]
  -- without a connection, a handle or an entry nothing is asked, and it says so
  have hrefused : ∀ w', (∀ x, ¬ (cl.isConnected = true ∧ 0 < c.handle ∧ cl.lookup c.handle = some x)) →
      (((({ ok := false, errors := 1 } : FlagsReport), w').1.ok = true ↔ cl.Accepted c w w')
        ∧ ((({ ok := false, errors := 1 } : FlagsReport), w').1.ok = false →
          (({ ok := false, errors := 1 } : FlagsReport), w').1.errors = 1)
        ↔ cl.ReportHolds c w) := by
    intro w' hno
    refine ⟨fun _ x hc hh hx => absurd ⟨hc, hh, hx⟩ (hno x), fun _ => ⟨⟨fun h => (nomatch h), fun h => ?_⟩,
      fun _ => rfl⟩⟩
    obtain ⟨x, hx⟩ := Option.isSome_iff_exists.mp h.known.2
    exact absurd ⟨h.connected, h.known.1, hx⟩ (hno x)
  unfold reportUpdateFlags
  by_cases hc : cl.isConnected = true
  · rw [if_pos hc]
    by_cases hh : 0 < c.handle
    · rw [if_pos hh]
      cases hx : cl.lookup c.handle with
      | none => exact hrefused w fun x h => by rw [hx] at h; cases h.2.2
      | some x =>
        dsimp only
        have hend := loopEnd_reportFlagsLoop cl.channels c.pendingFlags (cl.contacts x) ListId.all 0 w
        have haccepted : cl.Accepted c w
              (reportFlagsLoop cl.channels c.pendingFlags (cl.contacts x) ListId.all true 0 w).2
            ↔ w.AllAnswered
              (reportFlagsLoop cl.channels c.pendingFlags (cl.contacts x) ListId.all true 0 w).2
              WentThrough :=
          ⟨fun h => h.through, fun h => ⟨hc, ⟨hh, by rw [hx]; rfl⟩,
            fun l hl => visited_reportFlagsLoop h l.mem_all hl, h⟩⟩
        have hholds : cl.ReportHolds c w ↔
            Taken cl.channels c.pendingFlags (cl.contacts x).flags ListId.all w.replies
              ∨ CutShort cl.channels ListId.all w.replies := by
          refine ⟨fun h => h x hc hh hx, fun h y _ _ hy => ?_⟩
          obtain rfl := Option.some.inj (hx.symm.trans hy)
          exact h
        rw [haccepted, hholds]
        -- the loop went through, or it stopped at a call that the disconnect cut short
        rcases hend with ⟨hok, hiff, hno⟩ | ⟨hok, hnot, hno, -, hiff⟩
        · rw [hok]
          refine ⟨fun h => .inl (hiff.mp (h.1.mp rfl)), fun h => ⟨⟨fun _ => ?_, fun _ => rfl⟩,
            fun h => (nomatch h)⟩⟩
          exact hiff.mpr (h.resolve_right hno)
        · rw [hok]
          refine ⟨fun h => .inr (hiff.mp (h.2 rfl)), fun h => ⟨⟨fun h => (nomatch h), fun h => absurd h hnot⟩,
            fun _ => ?_⟩⟩
          exact hiff.mpr (h.resolve_left hno)
    · rw [if_neg hh]
      exact hrefused w fun x h => hh h.2.1
  · rw [if_neg hc]
    exact hrefused w fun x h => hc h.1

end Cl

namespace Backend

/-- The roster has one contact, on the subscribe list, and the publish list has its channel too. -/
def publishUp : List Input :=
  firstSync ++ [{ event := .cl (.done 0 true) }, { event := .cl (.done 3 true) }]

/-- The server refuses to put the contact on the publish list. -/
def publishRefused : Wire := { replies := [{}, {}, { ok := false }, {}] }

/-- The contact is to see the user. -/
def publishAnn : Contact.EVCard :=
  [{ name := "UID", values := ["acct-ann"] }, { name := "X-JABBER", values := ["ann"] },
    { name := "X-TELEPATHY-PUBLISHED", values := ["yes"] }]

/--
The server refuses the change. `run_update_flags` sets an error and returns `TRUE`, and the change
is no longer marked to be made.
-/
theorem refused_update_reported :
    ∃ b b', ReachableFrom "acct" "X-JABBER" {} b
      ∧ b.step { event := .modifyContact publishAnn, env := { replies := publishRefused.replies } }
          = some b'
      ∧ Request.addMembers .publish [7] ∈ b'.wire.sent
      ∧ (b'.book.contacts 0).pendingFlags.has scheduleUpdateFlags = false
      ∧ ¬ b.tpcl.ReportsTruly ((b.book.contacts 0).updateFromEcontact publishAnn "X-JABBER").2
          publishRefused := by
  have hrun : ((machine.run (boot "acct" "X-JABBER" {}) publishUp).bind fun b =>
      (b.step { event := .modifyContact publishAnn,
                env := { replies := publishRefused.replies } }).map fun b' =>
        decide (Request.addMembers .publish [7] ∈ b'.wire.sent
          ∧ (b'.book.contacts 0).pendingFlags.has scheduleUpdateFlags = false
          ∧ (b.tpcl.reportUpdateFlags
              ((b.book.contacts 0).updateFromEcontact publishAnn "X-JABBER").2 publishRefused).1
            = { ok := true, errors := 1 }
          ∧ (b.tpcl.reportUpdateFlags
              ((b.book.contacts 0).updateFromEcontact publishAnn "X-JABBER").2
                publishRefused).2.sent[2]? = some (.addMembers .publish [7]))) = some true := by
    decide +kernel
  obtain ⟨b, hb, hrest⟩ := Option.bind_eq_some_iff.mp hrun
  obtain ⟨b', hb', hfacts⟩ := Option.map_eq_some_iff.mp hrest
  obtain ⟨hsent, hcleared, hreport, hthird⟩ := of_decide_eq_true hfacts
  refine ⟨b, b', ⟨_, hb⟩, hb', hsent, hcleared, fun h => ?_⟩
  have haccepted := h.result.mp (by rw [hreport])
  have hok := (haccepted.through _ _ ⟨2, hthird, rfl⟩).2 (by decide)
  exact absurd hok (by decide)

end Backend

end EdsTelepathy
