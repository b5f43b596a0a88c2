import EdsTelepathy.Proof.Connection

/-!
# Two records of one contact

The roster layer and the address book each have a record of a contact, and the handle ties
them together. The signals carry what the roster's record says, a field or two at a time,
and each handler copies its own. Seen from the address book the two records agree on a
field, or something that is still to come excuses the difference: `Mirrors` says so for an
arbitrary set of excuses, and what a handler does is to make one of them unnecessary.
-/

namespace EdsTelepathy

/-- The second record has what the handler copies of the first; images are not compared. -/
def Carried.Agrees : Carried → Contact → Contact → Prop
  | .aliasName, src, c => c.aliasName = src.aliasName
  | .presence, src, c =>
    c.genericStatus = src.genericStatus ∧ c.status = src.status
      ∧ c.statusMessage = src.statusMessage
  | .flags, src, c => c.flags = src.flags
  | .capabilities, src, c => c.capabilities = src.capabilities
  | .contactInfo, src, c => c.contactInfo = src.contactInfo
  | .avatarToken, _, _ => True
  | .avatarData, _, _ => True

instance (f : Carried) (src c : Contact) : Decidable (f.Agrees src c) := by
  cases f <;> unfold Carried.Agrees <;> infer_instance

namespace Carried

theorem Agrees.refl (f : Carried) (c : Contact) : f.Agrees c c := by
  cases f with
  | presence => exact ⟨rfl, rfl, rfl⟩
  | avatarToken => trivial
  | avatarData => trivial
  | _ => rfl

theorem Agrees.trans {f : Carried} {a b c : Contact} (h : f.Agrees a b) (h' : f.Agrees b c) :
    f.Agrees a c := by
  cases f with
  | presence => exact ⟨h'.1.trans h.1, h'.2.1.trans h.2.1, h'.2.2.trans h.2.2⟩
  | avatarToken => trivial
  | avatarData => trivial
  | aliasName => exact Eq.trans h' h
  | flags => exact Eq.trans h' h
  | capabilities => exact Eq.trans h' h
  | contactInfo => exact Eq.trans h' h

theorem Agrees.symm {f : Carried} {a b : Contact} (h : f.Agrees a b) : f.Agrees b a := by
  cases f with
  | presence => exact ⟨h.1.symm, h.2.1.symm, h.2.2.symm⟩
  | avatarToken => trivial
  | avatarData => trivial
  | aliasName => exact Eq.symm h
  | flags => exact Eq.symm h
  | capabilities => exact Eq.symm h
  | contactInfo => exact Eq.symm h

theorem agrees_image (f : Carried) (c : Contact) (token mime : Option String)
    (data : Option (List UInt8)) (len : Nat) :
    f.Agrees c { c with
      avatarToken := token, avatarMime := mime, avatarData := data, avatarLen := len } := by
  cases f with
  | presence => exact ⟨rfl, rfl, rfl⟩
  | avatarToken => trivial
  | avatarData => trivial
  | _ => rfl

/-- The handler does its work. -/
theorem agrees_copy (f : Carried) (src c : Contact) : f.Agrees src (f.copy src c) := by
  cases f with
  | presence => exact ⟨rfl, rfl, rfl⟩
  | avatarToken => trivial
  | avatarData => trivial
  | _ => rfl

/-- A handler does not do another one's work. -/
theorem agrees_copy_of_ne {f g : Carried} (h : f ≠ g) (src c : Contact) :
    f.Agrees c (g.copy src c) := by
  obtain ⟨token, htoken⟩ := Contact.avatarTokenFrom_eq src c
  cases g with
  | avatarToken =>
    show f.Agrees c (src.avatarTokenFrom c)
    rw [htoken]
    exact agrees_image f c token c.avatarMime c.avatarData c.avatarLen
  | avatarData =>
    show f.Agrees c (src.avatarDataFrom c)
    unfold Contact.avatarDataFrom
    rw [htoken]
    exact agrees_image f c token _ _ _
  | _ =>
    cases f with
    | presence => first | exact absurd rfl h | exact ⟨rfl, rfl, rfl⟩
    | avatarToken => trivial
    | avatarData => trivial
    | _ => first | exact absurd rfl h | rfl

/-- What agrees with a record still does when another field is copied from it. -/
theorem Agrees.copy {f : Carried} {src c : Contact} (h : f.Agrees src c) (g : Carried) :
    f.Agrees src (g.copy src c) := by
  by_cases he : f = g
  · rw [he]; exact agrees_copy g src c
  · exact h.trans (agrees_copy_of_ne he src c)

theorem agrees_report {c c' : Contact} (h : Contact.SameReport c c') {f : Carried}
    (hf : f = .flags → c'.flags = c.flags) : f.Agrees c c' := by
  cases f with
  | aliasName => exact h.aliasName
  | presence => exact ⟨h.generic, h.status, h.statusMessage⟩
  | flags => exact hf rfl
  | capabilities => exact h.capabilities
  | contactInfo => exact h.contactInfo
  | avatarToken => trivial
  | avatarData => trivial

/-- Pending work is not compared. -/
theorem agrees_pending (f : Carried) (c : Contact) (pending : Flags) :
    f.Agrees c { c with pendingFlags := pending } := by
  have hsame : Contact.SameReport c { c with pendingFlags := pending } :=
    ⟨⟨rfl, rfl, rfl⟩, rfl, rfl, rfl⟩
  exact agrees_report hsame fun _ => rfl

end Carried

/-- The record is the one that the roster has under its handle, if it has one. -/
def Cl.Own (cl : Cl) (c : Contact) : Prop := ∀ x, cl.lookup c.handle = some x → cl.contacts x = c

/--
The edit keeps the entries of the handle index in order and the records that it refers to in
agreement, given the handles whose information was reported (`rep`) and those that the reply
names (`named`). A contact that is known by name gets a handle: what is not copied then has
to agree already.
-/
def Edit.KeepsCopies (rep named : List Nat) (b : Book) : Edit → Prop
  | .memberReported _ cIn =>
    0 < cIn.handle ∧ ∀ r ∈ b.nameToContact.lookup cIn.name,
      b.HandleOnly r cIn.handle
        ∧ (b.handleToContact.lookup cIn.handle = none →
          Carried.capabilities.Agrees cIn (b.contacts r)
            ∧ (cIn.handle ∈ rep → Carried.contactInfo.Agrees cIn (cIn.seen (b.contacts r))))
  | .contactAdded _ cIn =>
    0 < cIn.handle ∧ ∀ r ∈ b.nameToContact.lookup cIn.name,
      b.HandleOnly r cIn.handle
        ∧ (b.handleToContact.lookup cIn.handle ≠ some r →
          Carried.capabilities.Agrees cIn (b.contacts r)
            ∧ (cIn.handle ∈ rep → Carried.contactInfo.Agrees cIn (b.contacts r))
            ∧ (cIn.handle ∈ named ∨ Carried.presence.Agrees cIn (b.contacts r)))
  | .touch r t => b.HandleOnly r 0 ∨ (t.apply (b.contacts r)).flags = (b.contacts r).flags
  | .addDone r c =>
    b.HandleOnly r c.handle ∧ (b.HandleOnly r 0 ∨ c.flags = (b.contacts r).flags)
      ∧ ∀ dest ∈ b.mergeTarget r c,
        dest ≠ r ∧ b.handleToContact.lookup (b.contacts dest).handle = some dest
  | .addFailed r c =>
    b.HandleOnly r c.handle ∧ (b.HandleOnly r 0 ∨ c.flags = (b.contacts r).flags)
  | _ => True

instance (rep named : List Nat) (b : Book) : DecidablePred (Edit.KeepsCopies rep named b)
  | .memberReported _ cIn => inferInstanceAs (Decidable
      (0 < cIn.handle ∧ ∀ r ∈ b.nameToContact.lookup cIn.name,
        b.HandleOnly r cIn.handle
          ∧ (b.handleToContact.lookup cIn.handle = none →
            Carried.capabilities.Agrees cIn (b.contacts r)
              ∧ (cIn.handle ∈ rep → Carried.contactInfo.Agrees cIn (cIn.seen (b.contacts r))))))
  | .contactAdded _ cIn => inferInstanceAs (Decidable
      (0 < cIn.handle ∧ ∀ r ∈ b.nameToContact.lookup cIn.name,
        b.HandleOnly r cIn.handle
          ∧ (b.handleToContact.lookup cIn.handle ≠ some r →
            Carried.capabilities.Agrees cIn (b.contacts r)
              ∧ (cIn.handle ∈ rep → Carried.contactInfo.Agrees cIn (b.contacts r))
              ∧ (cIn.handle ∈ named ∨ Carried.presence.Agrees cIn (b.contacts r)))))
  | .touch r t => inferInstanceAs (Decidable
      (b.HandleOnly r 0 ∨ (t.apply (b.contacts r)).flags = (b.contacts r).flags))
  | .addDone r c => inferInstanceAs (Decidable
      (b.HandleOnly r c.handle ∧ (b.HandleOnly r 0 ∨ c.flags = (b.contacts r).flags)
        ∧ ∀ dest ∈ b.mergeTarget r c,
          dest ≠ r ∧ b.handleToContact.lookup (b.contacts dest).handle = some dest))
  | .addFailed r c => inferInstanceAs (Decidable
      (b.HandleOnly r c.handle ∧ (b.HandleOnly r 0 ∨ c.flags = (b.contacts r).flags)))
  | .importContact _ | .mergeByHandle _ _ | .forgetHandles | .deleteContacts _ | .createContact _
  | .modified _ _ _ _ _ | .scheduleRemoval _ | .removalDone _ => .isTrue trivial

namespace Book

variable {cl : Cl} {E E' : Carried → Nat → Prop} {G G' : Nat → Prop}

/--
The book agrees with the roster on every handle that both have: on each field, unless `E`
excuses it, and whoever is not in the roster any more is excused by `G`.
-/
structure Mirrors (cl : Cl) (E : Carried → Nat → Prop) (G : Nat → Prop) (b : Book) : Prop where
  keyed : ∀ h r, b.handleToContact.lookup h = some r → 0 < h ∧ (b.contacts r).handle = h
  within : ∀ h r, b.handleToContact.lookup h = some r → (cl.lookup h).isSome = true ∨ G h
  agree : ∀ f h x r, cl.lookup h = some x → b.handleToContact.lookup h = some r →
    Carried.Agrees f (cl.contacts x) (b.contacts r) ∨ E f h

theorem mirrors_empty {b : Book} (h : b.handleToContact = ∅) : Mirrors cl E G b := by
  have hnone : ∀ {x r}, b.handleToContact.lookup x ≠ some r := by
    intro x r hx
    rw [h] at hx
    cases hx
  exact ⟨fun _ _ hx => absurd hx hnone, fun _ _ hx => absurd hx hnone,
    fun _ _ _ _ _ hx => absurd hx hnone⟩

/-- The handle index refers to a contact at most once. -/
theorem Mirrors.inj {b : Book} (h : Mirrors cl E G b) {x y r : Nat}
    (hx : b.handleToContact.lookup x = some r) (hy : b.handleToContact.lookup y = some r) : x = y :=
  (h.keyed x r hx).2.symm.trans (h.keyed y r hy).2

/-- A contact that could only have the entry of the handle 0 has none. -/
theorem Mirrors.unentered {b : Book} (h : Mirrors cl E G b) {r : Nat} (hr : b.HandleOnly r 0)
    (x : Nat) : b.handleToContact.lookup x ≠ some r := by
  intro hx
  have hpos := (h.keyed x r hx).1
  have hzero := hr.eq hx
  omega

/-- Other excuses do as well where they cover what does not agree. -/
theorem Mirrors.excused {b : Book} (h : Mirrors cl E G b)
    (hE : ∀ f x y r, cl.lookup x = some y → b.handleToContact.lookup x = some r → E f x →
      Carried.Agrees f (cl.contacts y) (b.contacts r) ∨ E' f x)
    (hG : ∀ x r, b.handleToContact.lookup x = some r → G x → (cl.lookup x).isSome = true ∨ G' x) :
    Mirrors cl E' G' b where
  keyed := h.keyed
  within := fun x r hx => (h.within x r hx).elim .inl (hG x r hx)
  agree := fun f x y r hy hx => (h.agree f x y r hy hx).elim .inl (hE f x y r hy hx)

/-- Entries may go; where they stay, the record keeps its handle and what is reported of it. -/
theorem Mirrors.of_kept {b b' : Book} (h : Mirrors cl E G b)
    (hk : ∀ x r, b'.handleToContact.lookup x = some r → b.handleToContact.lookup x = some r
      ∧ (b'.contacts r).handle = (b.contacts r).handle
      ∧ ∀ f : Carried, f.Agrees (b.contacts r) (b'.contacts r)) : Mirrors cl E G b' where
  keyed := fun x r hx => by
    obtain ⟨hold, hhandle, -⟩ := hk x r hx
    obtain ⟨hpos, hkey⟩ := h.keyed x r hold
    exact ⟨hpos, hhandle.trans hkey⟩
  within := fun x r hx => h.within x r (hk x r hx).1
  agree := fun f x y r hy hx => by
    obtain ⟨hold, -, hsame⟩ := hk x r hx
    exact (h.agree f x y r hy hold).imp_left fun ha => ha.trans (hsame f)

/-- One record changes, and not in what is reported. -/
theorem Mirrors.modify {b : Book} (h : Mirrors cl E G b) {r : Nat} {f : Contact → Contact}
    (hf : b.HandleOnly r 0 ∨ ((f (b.contacts r)).handle = (b.contacts r).handle
      ∧ ∀ g : Carried, g.Agrees (b.contacts r) (f (b.contacts r)))) :
    Mirrors cl E G (b.modify r f) := by
  refine h.of_kept fun x r' hx => ?_
  have hx' : b.handleToContact.lookup x = some r' := hx
  by_cases he : r' = r
  · subst he
    obtain ⟨hhandle, hsame⟩ := hf.resolve_left fun ho => h.unentered ho x hx'
    rw [modify_contacts_self]
    exact ⟨hx', hhandle, hsame⟩
  · rw [modify_contacts_of_ne he]
    exact ⟨hx', rfl, fun g => .refl g _⟩

/-! ## A handler copies its field -/

/-- **One contact of a signal**: afterwards the two records agree on the field. -/
theorem Mirrors.merge {b : Book} (h : Mirrors cl E G b) {f : Carried} {c : Contact} (hc : cl.Own c)
    (hE : ∀ g x, E g x → E' g x ∨ (g = f ∧ x = c.handle)) :
    Mirrors cl E' G (b.mergeByHandle f.copy c) := by
  unfold mergeByHandle
  cases hl : b.handleToContact.lookup c.handle with
  | none =>
    refine h.excused (fun g x y r _ hx he => .inr ?_) fun _ _ _ hg => .inr hg
    refine (hE g x he).resolve_right fun ⟨_, hxc⟩ => ?_
    rw [hxc, hl] at hx
    cases hx
  | some r₀ =>
    refine ⟨fun x r hx => ?_, h.within, fun g x y r hy hx => ?_⟩
    · by_cases he : r = r₀
      · subst he
        obtain ⟨hpos, hkey⟩ := h.keyed x r hx
        rw [modify_contacts_self]
        exact ⟨hpos, (f.sameEntry c _).handle.trans hkey⟩
      · rw [modify_contacts_of_ne he]
        exact h.keyed x r hx
    · have hx' : b.handleToContact.lookup x = some r := hx
      by_cases he : r = r₀
      · subst he
        have hxc : x = c.handle := h.inj hx' hl
        subst hxc
        rw [modify_contacts_self, hc y hy]
        by_cases hg : g = f
        · rw [hg]; exact .inl (f.agrees_copy c _)
        · rcases h.agree g _ y r hy hx' with ha | hex
          · rw [hc y hy] at ha
            exact .inl (ha.copy f)
          · exact .inr ((hE g _ hex).resolve_right fun hgf => hg hgf.1)
      · rw [modify_contacts_of_ne he]
        refine (h.agree g x y r hy hx').imp_right fun hex => ?_
        refine (hE g x hex).resolve_right fun ⟨_, hxc⟩ => he ?_
        rw [hxc, hl] at hx'
        exact (Option.some.inj hx').symm

/-- **A whole signal**: what it carries is not excused any longer. -/
theorem Mirrors.merges {f : Carried} {cs : List Contact} {b : Book}
    (h : Mirrors cl (fun g x => E g x ∨ (g = f ∧ ∃ c ∈ cs, c.handle = x)) G b)
    (hcs : ∀ c ∈ cs, cl.Own c) : Mirrors cl E G (cs.foldl (mergeByHandle f.copy) b) := by
  induction cs generalizing b with
  | nil =>
    refine h.excused (fun g x y r _ _ he => .inr ?_) fun _ _ _ hg => .inr hg
    exact he.resolve_right fun ⟨_, c, hc, _⟩ => (by cases hc)
  | cons c cs ih =>
    refine ih (h.merge (hcs c List.mem_cons_self) fun g x he => ?_) fun c' hc' =>
      hcs c' (List.mem_cons_of_mem c hc')
    rcases he with he | ⟨hg, c', hc', hx⟩
    · exact .inl (.inl he)
    · rcases List.mem_cons.mp hc' with rfl | hc'
      · exact .inr ⟨hg, hx.symm⟩
      · exact .inl (.inr ⟨hg, c', hc', hx⟩)

/-! ## Contacts that get an entry -/

/-- One contact gets the entry of a handle, or already has it; the others stay as they are. -/
theorem Mirrors.entered {b b' : Book} (h : Mirrors cl E G b) (r₀ : Nat) {x₀ : Nat} (hpos : 0 < x₀)
    (hin : (cl.lookup x₀).isSome = true ∨ G x₀)
    (hentries : ∀ x r, b'.handleToContact.lookup x = some r →
      (x = x₀ ∧ r = r₀) ∨ (b.handleToContact.lookup x = some r ∧ r ≠ r₀))
    (hothers : ∀ x r, b.handleToContact.lookup x = some r → r ≠ r₀ →
      b'.contacts r = b.contacts r)
    (hhandle : (b'.contacts r₀).handle = x₀)
    (hagree : b'.handleToContact.lookup x₀ = some r₀ → ∀ f y, cl.lookup x₀ = some y →
      Carried.Agrees f (cl.contacts y) (b'.contacts r₀) ∨ E f x₀) : Mirrors cl E G b' := by
  refine ⟨fun x r hx => ?_, fun x r hx => ?_, fun f x y r hy hx => ?_⟩
  · rcases hentries x r hx with ⟨rfl, rfl⟩ | ⟨hold, hne⟩
    · exact ⟨hpos, hhandle⟩
    · rw [hothers x r hold hne]
      exact h.keyed x r hold
  · rcases hentries x r hx with ⟨rfl, -⟩ | ⟨hold, -⟩
    · exact hin
    · exact h.within x r hold
  · rcases hentries x r hx with ⟨rfl, rfl⟩ | ⟨hold, hne⟩
    · exact hagree hx f y hy
    · rw [hothers x r hold hne]
      exact h.agree f x y r hy hold

/-- A new contact is a copy of the roster's record. -/
theorem agrees_dup (f : Carried) (c : Contact) (uid : String) :
    f.Agrees c { c.dup with uid := uid } := by
  cases f with
  | presence => exact ⟨rfl, rfl, rfl⟩
  | avatarToken => trivial
  | avatarData => trivial
  | _ => rfl

/-- **The reply of `get_members`**: the fields that its handler does not copy follow by signals. -/
theorem mirrors_memberReported {rep named : List Nat} {b : Book} (h : Mirrors cl E G b)
    (halloc : b.Allocated) {pathSuffix : String} {cIn : Contact} (hown : cl.Own cIn)
    (hin : (cl.lookup cIn.handle).isSome = true ∨ G cIn.handle)
    (htold : ∀ f, f = .aliasName ∨ f = .presence ∨ f = .flags → E f cIn.handle)
    (hrep : cIn.handle ∉ rep → E .contactInfo cIn.handle)
    (hok : (Edit.memberReported pathSuffix cIn).KeepsCopies rep named b) :
    Mirrors cl E G (b.memberReported pathSuffix cIn) := by
  obtain ⟨hpos, hknown⟩ := hok
  unfold memberReported
  cases hl : b.nameToContact.lookup cIn.name with
  | some r =>
    obtain ⟨honly, hnew⟩ := hknown r hl
    dsimp only
    have hself : ((b.modify r cIn.seen).enterHandle cIn.handle r).contacts r
        = cIn.seen (b.contacts r) := by
      rw [enterHandle_contacts]; exact modify_contacts_self b r _
    refine h.entered r hpos hin (fun x r' hx => ?_) (fun x r' _ hne => ?_) ?_ fun hx₀ f y hy => ?_
    · unfold enterHandle at hx
      by_cases he : r' = r
      · subst he
        split at hx
        · exact .inl ⟨honly.eq hx, rfl⟩
        · rcases Table.lookup_insert_eq_some.mp hx with ⟨hxc, -⟩ | ⟨-, hold⟩
          · exact .inl ⟨hxc, rfl⟩
          · exact .inl ⟨honly.eq hold, rfl⟩
      · split at hx
        · exact .inr ⟨hx, he⟩
        · rcases Table.lookup_insert_eq_some.mp hx with ⟨-, hr⟩ | ⟨-, hold⟩
          · exact absurd hr.symm he
          · exact .inr ⟨hold, he⟩
    · rw [enterHandle_contacts]
      exact modify_contacts_of_ne hne
    · rw [hself]; rfl
    · rw [hself, hown y hy]
      -- the contact had the entry before, or gets it now
      have hcase : b.handleToContact.lookup cIn.handle = some r
          ∨ b.handleToContact.lookup cIn.handle = none := by
        unfold enterHandle at hx₀
        split at hx₀
        · exact .inl hx₀
        · rename_i hnone
          exact .inr (Option.not_isSome_iff_eq_none.mp hnone)
      cases f with
      | aliasName => exact .inr (htold _ (.inl rfl))
      | presence => exact .inr (htold _ (.inr (.inl rfl)))
      | flags => exact .inr (htold _ (.inr (.inr rfl)))
      | avatarToken => exact .inl trivial
      | avatarData => exact .inl trivial
      | capabilities =>
        rcases hcase with hold | hnone
        · have ha := h.agree .capabilities _ y r hy hold
          rw [hown y hy] at ha
          exact ha
        · exact .inl (hnew hnone).1
      | contactInfo =>
        by_cases hr : cIn.handle ∈ rep
        · rcases hcase with hold | hnone
          · refine (h.agree .contactInfo _ y r hy hold).imp_left fun ha => ?_
            rw [hown y hy] at ha
            have hinfo : (b.contacts r).contactInfo = cIn.contactInfo := ha
            show Contact.refresh (b.contacts r).contactInfo cIn.contactInfo = cIn.contactInfo
            rw [hinfo]
            cases cIn.contactInfo <;> rfl
          · exact .inl ((hnew hnone).2 hr)
        · exact .inr (hrep hr)
  | none =>
    dsimp only
    have hself : ((b.memberFound pathSuffix cIn).enterHandle cIn.handle b.next).contacts b.next
        = { cIn.dup with uid := generateUid pathSuffix b.uidToContact cIn.name } := by
      rw [enterHandle_contacts]; exact alloc_contacts_next b _
    refine h.entered b.next hpos hin (fun x r' hx => ?_) (fun x r' _ hne => ?_) ?_ fun _ f y hy => ?_
    · have hold : ∀ {x r'}, b.handleToContact.lookup x = some r' → r' ≠ b.next := fun hx =>
        Nat.ne_of_lt (halloc.handle _ _ hx)
      unfold enterHandle at hx
      split at hx
      · exact .inr ⟨hx, hold hx⟩
      · rcases Table.lookup_insert_eq_some.mp hx with ⟨hxc, hr⟩ | ⟨-, hx⟩
        · exact .inl ⟨hxc, hr.symm⟩
        · exact .inr ⟨hx, hold hx⟩
    · rw [enterHandle_contacts]
      exact alloc_contacts_of_ne hne
    · rw [hself]; rfl
    · rw [hself, hown y hy]
      exact .inl (agrees_dup f cIn _)

/-- **Contacts that are announced**: the presence of one that is known follows by a signal. -/
theorem mirrors_contactAdded {rep named : List Nat} {b : Book} (h : Mirrors cl E G b)
    (halloc : b.Allocated) {pathSuffix : String} {cIn : Contact} (hown : cl.Own cIn)
    (hin : (cl.lookup cIn.handle).isSome = true ∨ G cIn.handle)
    (htold : cIn.handle ∈ named → E .presence cIn.handle)
    (hrep : cIn.handle ∉ rep → E .contactInfo cIn.handle)
    (hok : (Edit.contactAdded pathSuffix cIn).KeepsCopies rep named b) :
    Mirrors cl E G (b.contactAdded pathSuffix cIn) := by
  obtain ⟨hpos, hknown⟩ := hok
  -- the entry is under the handle of the roster, which the contact has taken over
  have hentry : ∀ {b' : Book} {r : Nat}, (b'.contacts r).handle = cIn.handle →
      (b'.enterAdded r).handleToContact = b'.handleToContact.insert cIn.handle r := by
    intro b' r hh
    unfold enterAdded
    rw [← hh]
  unfold contactAdded
  cases hl : b.nameToContact.lookup cIn.name with
  | some r =>
    obtain ⟨honly, hnew⟩ := hknown r hl
    dsimp only
    have hself : (b.contactConfirmed r cIn).contacts r = cIn.confirmed (b.contacts r) :=
      modify_contacts_self b r _
    have htable := @hentry (b.contactConfirmed r cIn) r (by rw [hself]; rfl)
    refine h.entered r hpos hin (fun x r' hx => ?_) (fun x r' _ hne => ?_) ?_ fun _ f y hy => ?_
    · rw [htable] at hx
      rcases Table.lookup_insert_eq_some.mp hx with ⟨hxc, hr⟩ | ⟨hxc, hold⟩
      · exact .inl ⟨hxc, hr.symm⟩
      · refine .inr ⟨hold, fun he => hxc ?_⟩
        rw [he] at hold
        exact honly.eq hold
    · exact modify_contacts_of_ne hne
    · show ((b.contactConfirmed r cIn).contacts r).handle = cIn.handle
      rw [hself]; rfl
    · show Carried.Agrees f _ ((b.contactConfirmed r cIn).contacts r) ∨ _
      rw [hself, hown y hy]
      have hold : b.handleToContact.lookup cIn.handle = some r →
          Carried.Agrees f cIn (b.contacts r) ∨ E f cIn.handle := by
        intro hr
        have ha := h.agree f _ y r hy hr
        rw [hown y hy] at ha
        exact ha
      cases f with
      | aliasName => exact .inl rfl
      | flags => exact .inl rfl
      | avatarToken => exact .inl trivial
      | avatarData => exact .inl trivial
      -- presence and capabilities are not copied here: a signal follows, or they are right already
      | presence =>
        by_cases hr : b.handleToContact.lookup cIn.handle = some r
        · exact hold hr
        · exact (hnew hr).2.2.elim (fun hn => .inr (htold hn)) .inl
      | capabilities =>
        by_cases hr : b.handleToContact.lookup cIn.handle = some r
        · exact hold hr
        · exact .inl (hnew hr).1
      | contactInfo =>
        by_cases hr : b.handleToContact.lookup cIn.handle = some r
        · exact hold hr
        · by_cases hin : cIn.handle ∈ rep
          · exact .inl ((hnew hr).2.1 hin)
          · exact .inr (hrep hin)
  | none =>
    dsimp only
    have hself : (b.contactFound pathSuffix cIn).contacts b.next
        = { cIn.dup with uid := generateUid pathSuffix b.uidToContact cIn.name } :=
      alloc_contacts_next b _
    have htable := @hentry (b.contactFound pathSuffix cIn) b.next (by rw [hself]; rfl)
    refine h.entered b.next hpos hin (fun x r' hx => ?_) (fun x r' _ hne => ?_) ?_ fun _ f y hy => ?_
    · -- the copy is a new object, so no entry but its own is for it
      rw [htable] at hx
      rcases Table.lookup_insert_eq_some.mp hx with ⟨hxc, hr⟩ | ⟨-, hold⟩
      · exact .inl ⟨hxc, hr.symm⟩
      · exact .inr ⟨hold, Nat.ne_of_lt (halloc.handle _ _ hold)⟩
    · exact alloc_contacts_of_ne hne
    · show ((b.contactFound pathSuffix cIn).contacts b.next).handle = cIn.handle
      rw [hself]; rfl
    · show Carried.Agrees f _ ((b.contactFound pathSuffix cIn).contacts b.next) ∨ _
      rw [hself, hown y hy]
      exact .inl (agrees_dup f cIn _)

/-! ## Contacts that lose it -/

theorem Mirrors.deleteContact {b : Book} (h : Mirrors cl E G b) (r : Nat) :
    Mirrors cl E G (b.deleteContact r) := by
  refine h.of_kept fun x r' hx => ?_
  rw [deleteContact_contacts]
  exact ⟨(deleteContact_handle hx).1, rfl, fun f => .refl f _⟩

/-- **Whoever has left the roster leaves the handle index**, since the entries are in order. -/
theorem mirrors_contactsRemoved {b : Book} {cs : List Contact}
    (h : Mirrors cl E (fun x => G x ∨ ∃ c ∈ cs, c.handle = x) b) :
    Mirrors cl E G ((b.byHandle cs).foldl Book.deleteContact
      ((b.byHandle cs).foldl (fun book r => book.modify r Contact.clearDelete) b)) := by
  have hcleared : ∀ (rs : List Nat) {b' : Book}, Mirrors cl E (fun x => G x ∨ ∃ c ∈ cs, c.handle = x) b' →
      b'.handleToContact = b.handleToContact →
      Mirrors cl E (fun x => G x ∨ ∃ c ∈ cs, c.handle = x)
          (rs.foldl (fun book r => book.modify r Contact.clearDelete) b')
        ∧ (rs.foldl (fun book r => book.modify r Contact.clearDelete) b').handleToContact
          = b.handleToContact := fun rs _ hm ht =>
    foldl_inv (I := fun b' : Book => Mirrors cl E (fun x => G x ∨ ∃ c ∈ cs, c.handle = x) b'
        ∧ b'.handleToContact = b.handleToContact)
      (fun b' r hI => ⟨hI.1.modify (.inr ⟨rfl, fun f => f.agrees_pending _ _⟩), hI.2⟩) rs ⟨hm, ht⟩
  obtain ⟨hm, ht⟩ := hcleared (b.byHandle cs) h rfl
  generalize (b.byHandle cs).foldl (fun book r => book.modify r Contact.clearDelete) b = b₁ at hm ht
  -- an entry that is left is an old one, of a contact that was not deleted
  have hleft : ∀ (rs : List Nat) {b' : Book}, Mirrors cl E (fun x => G x ∨ ∃ c ∈ cs, c.handle = x) b' →
      Mirrors cl E (fun x => G x ∨ ∃ c ∈ cs, c.handle = x) (rs.foldl Book.deleteContact b')
        ∧ ∀ x r, (rs.foldl Book.deleteContact b').handleToContact.lookup x = some r →
          b'.handleToContact.lookup x = some r ∧ r ∉ rs := by
    intro rs
    induction rs with
    | nil => exact fun hm' => ⟨hm', fun x r hx => ⟨hx, List.not_mem_nil⟩⟩
    | cons r₀ rs ih =>
      intro b' hm'
      obtain ⟨hend, hall⟩ := ih (hm'.deleteContact r₀)
      refine ⟨hend, fun x r hx => ?_⟩
      obtain ⟨hold, hnot⟩ := hall x r hx
      obtain ⟨hold', hne⟩ := deleteContact_handle hold
      refine ⟨hold', fun hmem => ?_⟩
      rcases List.mem_cons.mp hmem with rfl | hmem
      · obtain ⟨hpos, hkey⟩ := hm'.keyed x r hold'
        exact hne (by omega) hkey.symm
      · exact hnot hmem
  obtain ⟨hend, hall⟩ := hleft (b.byHandle cs) hm
  refine hend.excused (fun f x y r _ _ he => .inr he) fun x r hx hg => ?_
  refine .inr (hg.resolve_right fun ⟨c, hc, hcx⟩ => ?_)
  obtain ⟨hold, hnot⟩ := hall x r hx
  refine hnot (List.mem_filterMap.mpr ⟨c, hc, ?_⟩)
  rw [hcx, ← ht]
  exact hold

/-! ## Requests and the synchronisation -/

/-- The contact of a request gets no other handle than that of its entry. -/
theorem Mirrors.asked {b : Book} (h : Mirrors cl E G b) {r : Nat} {c : Contact}
    (honly : b.HandleOnly r c.handle) (hflags : b.HandleOnly r 0 ∨ c.flags = (b.contacts r).flags)
    (hsame : Contact.SameReport (b.contacts r) c) : Mirrors cl E G (b.modify r fun _ => c) := by
  refine h.of_kept fun x r' hx => ?_
  have hx' : b.handleToContact.lookup x = some r' := hx
  by_cases he : r' = r
  · subst he
    have hf := hflags.resolve_left fun ho => h.unentered ho x hx'
    rw [modify_contacts_self]
    refine ⟨hx', (honly.eq hx').symm.trans (h.keyed x r' hx').2.symm, fun f => ?_⟩
    exact Carried.agrees_report hsame fun _ => hf
  · rw [modify_contacts_of_ne he]
    exact ⟨hx', rfl, fun f => .refl f _⟩

/-- **The edits of any other event** leave the records alone that the handle index refers to. -/
theorem Mirrors.request {asks : Bool} {rep named : List Nat} {b : Book} {e : Edit}
    (h : Mirrors cl E G b) (halloc : b.Allocated) (hreq : e.Requested asks b)
    (hok : e.KeepsCopies rep named b) : Mirrors cl E G (b.apply e) := by
  -- a contact that is made has no entry by handle yet
  have hnew : ∀ {b' : Book} {c : Contact}, b'.contacts = (b.alloc c).contacts →
      b'.handleToContact = b.handleToContact → Mirrors cl E G b' := by
    intro b' c hcon ht
    refine h.of_kept fun x r hx => ?_
    rw [ht] at hx
    rw [hcon, alloc_contacts_of_ne (Nat.ne_of_lt (halloc.handle x r hx))]
    exact ⟨hx, rfl, fun f => .refl f _⟩
  have htables : ∀ {b₁ b' : Book}, Mirrors cl E G b₁ → b'.contacts = b₁.contacts →
      b'.handleToContact = b₁.handleToContact → Mirrors cl E G b' := by
    intro b₁ b' hm hcon ht
    refine hm.of_kept fun x r hx => ?_
    rw [ht] at hx
    rw [hcon]
    exact ⟨hx, rfl, fun f => .refl f _⟩
  cases e with
  | memberReported pathSuffix cIn => exact hreq.elim
  | contactAdded pathSuffix cIn => exact hreq.elim
  | mergeByHandle f cIn => exact hreq.elim
  | forgetHandles => exact hreq.elim
  | importContact c => exact hnew rfl rfl
  | createContact c => exact hnew (createContact_contacts b c) (createContact_handleToContact b c)
  | touch r t =>
    refine h.modify (hok.imp_right fun hflags => ⟨(t.sameKeys _).2.2, fun f => ?_⟩)
    exact Carried.agrees_report (t.sameReport _) fun _ => hflags
  | deleteContacts rs => exact foldl_inv (fun _ r hm => hm.deleteContact r) rs h
  | modified r ec vcardField sent stored =>
    obtain ⟨hother, heased⟩ := modified_onlyAt b r ec vcardField sent stored
    obtain ⟨ht, -, -⟩ := modified_tables b r ec vcardField sent stored
    refine h.of_kept fun x r' hx => ?_
    have hx' : b.handleToContact.lookup x = some r' := by
      rw [← ht]; exact hx
    by_cases he : r' = r
    · subst he
      have hd := Contact.decoded_updateFromEcontact (b.contacts r') ec vcardField
      have hs := Contact.sameReport_updateFromEcontact (b.contacts r') ec vcardField
      obtain ⟨p, hp, -⟩ := heased
      show _ ∧ ((b.modified r' ec vcardField sent stored).contacts r').handle = _ ∧ _
      refine ⟨hx', by rw [hp]; exact hd.handle, fun f => ?_⟩
      show f.Agrees _ ((b.modified r' ec vcardField sent stored).contacts r')
      rw [hp]
      exact (Carried.agrees_report hs fun _ => hd.flags).trans (f.agrees_pending _ _)
    · show _ ∧ ((b.modified r ec vcardField sent stored).contacts r').handle = _ ∧ _
      have hsame : (b.apply (.modified r ec vcardField sent stored)).contacts r' = b.contacts r' :=
        hother r' he
      rw [hsame]
      exact ⟨hx', congrArg Contact.handle (hother r' he), fun f => .refl f _⟩
  | scheduleRemoval r =>
    have hmod : Mirrors cl E G (b.modify r fun c => c.nothingPending.markDelete) :=
      h.modify (.inr ⟨rfl, fun f => f.agrees_pending _ _⟩)
    exact htables hmod (contacts_scheduleRemoval b r) rfl
  | removalDone r =>
    have hmod : Mirrors cl E G (b.modify r Contact.clearDelete) :=
      h.modify (.inr ⟨rfl, fun f => f.agrees_pending _ _⟩)
    exact htables hmod rfl rfl
  | addFailed r c =>
    obtain ⟨honly, hflags⟩ := hok
    have hsame : Contact.SameReport (b.contacts r) c := hreq
    exact h.asked honly hflags hsame
  | addDone r c =>
    obtain ⟨honly, hflags, hdest⟩ := hok
    have hsame : Contact.SameReport (b.contacts r) c := hreq.1
    have hmod : Mirrors cl E G (b.modify r fun _ => c.clearAdd) :=
      h.asked honly hflags (hsame.trans ⟨⟨rfl, rfl, rfl⟩, rfl, rfl, rfl⟩)
    obtain ⟨hnone, hsome⟩ := handles_addDone b r c
    rcases addDone_spec b r c with ⟨ht, hs⟩ | ⟨dest, ht, hs⟩
    · exact htables hmod hs.contacts (hnone ht)
    · -- a merge enters the survivor under its own handle, where it stands already
      obtain ⟨hne, hentry⟩ := hdest dest ht
      have htable := hsome dest ht hne
      refine hmod.of_kept fun x r' hx => ?_
      have hx' : (b.addDone r c).handleToContact.lookup x = some r' := hx
      have hold : b.handleToContact.lookup x = some r' := by
        rw [htable] at hx'
        rcases Table.lookup_insert_eq_some.mp hx' with ⟨rfl, rfl⟩ | ⟨-, hx'⟩
        · exact hentry
        · split at hx'
          · exact (Table.lookup_erase_eq_some.mp hx').2
          · exact hx'
      refine ⟨hold, ?_⟩
      show ((b.addDone r c).contacts r').handle = _ ∧ ∀ f : Carried, f.Agrees _ ((b.addDone r c).contacts r')
      rw [hs.contacts]
      by_cases he : r' = dest
      · subst he
        rw [modify_contacts_self]
        refine ⟨(Contact.sameKeys_mergeFrom _ _).2.2, fun f => ?_⟩
        exact Carried.agrees_report (Contact.sameReport_mergeFrom _ _) fun _ =>
          (Contact.mergeFrom_keeps _ _).2
      · rw [modify_contacts_of_ne he]
        exact ⟨rfl, fun f => .refl f _⟩

end Book

end EdsTelepathy
