import EdsTelepathy.Backend.Avatars
import EdsTelepathy.Proof.Indexes

/-!
# Image files and their directory

A token comes from the other side and is made part of a path as it is. The slashes in front of
it are lost in that, and nothing else is: whether the path stays in the directory, and whether
it is the path of another token too, depends on the token alone.
-/

namespace EdsTelepathy

open Path

/-- A name that an entry of a directory can have. -/
structure EntryName (name : List Char) : Prop where
  ne_nil : name ≠ []
  noSep : '/' ∉ name
  ne_dot : name ≠ ['.']
  ne_dots : name ≠ ['.', '.']

instance (name : List Char) : Decidable (EntryName name) :=
  decidable_of_iff (name ≠ [] ∧ '/' ∉ name ∧ name ≠ ['.'] ∧ name ≠ ['.', '.'])
    ⟨fun ⟨h1, h2, h3, h4⟩ => ⟨h1, h2, h3, h4⟩, fun h => ⟨h.ne_nil, h.noSep, h.ne_dot, h.ne_dots⟩⟩

/-- The path is that of an entry of the directory itself. -/
def DirectChild (dir p : List Char) : Prop := ∃ name, EntryName name ∧ p = dir ++ '/' :: name

/-- A token without the slashes in front of it. -/
def stripped (token : String) : List Char := token.toList.dropWhile isSep

namespace Contact

/-- The token of the contact, if it has one, is one of these. -/
def HasTokenOf (tokens : Set String) (c : Contact) : Prop :=
  ∀ token, c.avatarToken = some token → token ∈ tokens

theorem avatarPath_eq (home : List Char) {c : Contact} {token : String}
    (h : c.avatarToken = some token) :
    c.avatarPath home = avatarDirectory home ++ tail token.toList := by
  have hlast : Solid "avatars".toList := ⟨"avatar".toList, 's', by decide +kernel, rfl⟩
  unfold avatarPath avatarDirectory
  rw [h]
  exact buildFilename_concat [home, ".osso-abook".toList] hlast token.toList

end Contact

/-- An entry name is what is added to the directory. -/
theorem tail_of_entryName {token : String} (h : EntryName (stripped token)) :
    tail token.toList = '/' :: stripped token := by
  have hcore : core token.toList ≠ [] := by
    intro hnil
    obtain ⟨c, cs, hcs⟩ := List.exists_cons_of_ne_nil h.ne_nil
    have hmem : c ∈ stripped token := by rw [hcs]; exact List.mem_cons_self
    have hsep : isSep c = true :=
      core_eq_nil.mp hnil c ((List.dropWhile_sublist isSep).subset hmem)
    obtain rfl : c = '/' := of_decide_eq_true hsep
    exact h.noSep hmem
  have hne : token.toList ≠ [] := fun he => hcore (by rw [he]; rfl)
  unfold tail
  rw [if_neg hne, if_neg hcore]
  rfl

/-- **The path is in the directory** where the token is an entry name, up to slashes in front. -/
theorem directChild_iff (dir : List Char) (token : String) :
    DirectChild dir (dir ++ tail token.toList) ↔ EntryName (stripped token) := by
  constructor
  · rintro ⟨name, hname, he⟩
    have htail : tail token.toList = '/' :: name := List.append_cancel_left he
    unfold tail at htail
    split at htail
    · cases htail
    · split at htail
      · rename_i hcore
        obtain ⟨c, cs, hcs⟩ := List.exists_cons_of_ne_nil hname.ne_nil
        have hmem : c ∈ name := by rw [hcs]; exact List.mem_cons_self
        have hsep : isSep c = true :=
          core_eq_nil.mp hcore c (htail ▸ List.mem_cons_of_mem '/' hmem)
        obtain rfl : c = '/' := of_decide_eq_true hsep
        exact absurd hmem hname.noSep
      · have he : stripped token = name := (List.cons.inj htail).2
        rw [he]
        exact hname
  · intro h
    exact ⟨stripped token, h, by rw [tail_of_entryName h]⟩

namespace Backend

/--
The images with these tokens stay in their directory, and apart from each other. A token comes
with an image, or by itself, or it is in the cache already.
-/
structure AvatarsConfined (home : List Char) (tokens : Set String) : Prop where
  written : ∀ token ∈ tokens, ∀ pathSuffix vcardField db b,
    ReachableFrom pathSuffix vcardField db b → ∀ h data mime cIn,
      .avatarDataChanged cIn ∈ (b.tpcl.detailsCb (.avatarRetrieved h token data mime)).2 →
        ∀ p ∈ b.avatarFileWritten home cIn, DirectChild (avatarDirectory home) p
  tested : ∀ (b : Backend) cs, (∀ r, (b.book.contacts r).HasTokenOf tokens) →
    (∀ cIn ∈ cs, cIn.HasTokenOf tokens) →
      ∀ p ∈ b.avatarFilesTested home cs, DirectChild (avatarDirectory home) p
  exported : ∀ token ∈ tokens, ∀ c : Contact, c.avatarToken = some token →
    ∀ p ∈ c.avatarFile home, DirectChild (avatarDirectory home) p
  apart : ∀ token ∈ tokens, ∀ token' ∈ tokens, token ≠ "" → token' ≠ "" → token ≠ token' →
    ∀ c c' : Contact, c.avatarToken = some token → c'.avatarToken = some token' →
      c.avatarPath home ≠ c'.avatarPath home

/-- The tokens are entry names, and different ones, once the slashes in front are taken away. -/
structure TokensUsable (tokens : Set String) : Prop where
  entryName : ∀ token ∈ tokens, EntryName (stripped token)
  apart : ∀ token ∈ tokens, ∀ token' ∈ tokens, stripped token = stripped token' → token = token'

/-- An image that is received comes with its token. -/
theorem token_of_avatarRetrieved {cl : Cl} {h : Nat} {token mime : String} {data : List UInt8}
    {cIn : Contact}
    (hs : .avatarDataChanged cIn ∈ (cl.detailsCb (.avatarRetrieved h token data mime)).2) :
    cIn.avatarToken = some token := by
  unfold Cl.detailsCb at hs
  split at hs
  · dsimp only at hs
    unfold Cl.avatarRetrievedCb at hs
    split at hs
    · rename_i r hr
      cases List.mem_singleton.mp hs
      rw [Cl.modify_contacts_self]
    · cases hs
  · cases hs

theorem token_of_avatarDataFrom {cIn c : Contact} {token : String}
    (h : cIn.avatarToken = some token) : (cIn.avatarDataFrom c).avatarToken = some token := by
  unfold Contact.avatarDataFrom Contact.avatarTokenFrom
  rw [if_neg (by rw [h]; exact nofun)]
  exact h

theorem hasTokenOf_avatarTokenFrom {tokens : Set String} {cIn c : Contact}
    (hIn : cIn.HasTokenOf tokens) (hc : c.HasTokenOf tokens) :
    (cIn.avatarTokenFrom c).HasTokenOf tokens := by
  unfold Contact.avatarTokenFrom
  split
  · exact hc
  · exact hIn

theorem hasTokenOf_mergeByHandle {tokens : Set String} {book : Book} {cIn : Contact}
    (hIn : cIn.HasTokenOf tokens) (h : ∀ r, (book.contacts r).HasTokenOf tokens) (r : Nat) :
    ((book.mergeByHandle Contact.avatarTokenFrom cIn).contacts r).HasTokenOf tokens := by
  unfold Book.mergeByHandle
  split
  · rename_i r' hr'
    by_cases he : r = r'
    · rw [he, Book.modify_contacts_self]
      exact hasTokenOf_avatarTokenFrom hIn (h r')
    · rw [Book.modify_contacts_of_ne he]
      exact h r
  · exact h r

/-- Whatever is tested after a change of tokens is the file of a contact with one of them. -/
theorem mem_avatarFilesTested {home p : List Char} {tokens : Set String} {b : Backend}
    {cs : List Contact} (hb : ∀ r, (b.book.contacts r).HasTokenOf tokens)
    (hcs : ∀ cIn ∈ cs, cIn.HasTokenOf tokens) (hp : p ∈ b.avatarFilesTested home cs) :
    ∃ c : Contact, c.HasTokenOf tokens ∧ c.avatarFile home = some p := by
  let I : Book × List (List Char) → Prop := fun st =>
    (∀ r, (st.1.contacts r).HasTokenOf tokens)
      ∧ ∀ p ∈ st.2, ∃ c : Contact, c.HasTokenOf tokens ∧ c.avatarFile home = some p
  have hloop : ∀ (cs : List Contact) (st : Book × List (List Char)),
      (∀ cIn ∈ cs, cIn.HasTokenOf tokens) → I st → I (cs.foldl (avatarFileTested home) st) := by
    intro cs
    induction cs with
    | nil => exact fun st _ h => h
    | cons cIn cs ih =>
      intro st hcs h
      have hbook := hasTokenOf_mergeByHandle (hcs cIn List.mem_cons_self) h.1
      refine ih _ (fun c hc => hcs c (List.mem_cons_of_mem cIn hc)) ⟨hbook, fun p hp => ?_⟩
      unfold avatarFileTested at hp
      dsimp only at hp
      split at hp
      · rename_i r hr
        rcases List.mem_append.mp hp with hold | hnew
        · exact h.2 p hold
        · exact ⟨_, hbook r, Option.mem_toList.mp hnew⟩
      · exact h.2 p hp
  exact (hloop cs (b.book, []) hcs ⟨hb, fun p hp => (by cases hp)⟩).2 p hp

theorem path_of_avatarFile {home p : List Char} {c : Contact} (h : c.avatarFile home = some p) :
    ∃ token, c.avatarToken = some token ∧ c.avatarPath home = p := by
  unfold Contact.avatarFile at h
  split at h
  · rename_i token htoken
    split at h
    · cases h
    · exact ⟨token, htoken, Option.some.inj h⟩
  · cases h

/-- An image with any token can be received. -/
theorem avatar_received (home : List Char) (token : String) :
    ∃ b cIn, ReachableFrom "acct" "X-JABBER" {} b
      ∧ .avatarDataChanged cIn ∈ (b.tpcl.detailsCb (.avatarRetrieved 7 token [] "image/png")).2
      ∧ b.avatarFileWritten home cIn = some (avatarDirectory home ++ tail token.toList) := by
  have hrun : ((machine.run (boot "acct" "X-JABBER" {}) firstSync).map fun b =>
      decide (b.tpcl.isConnected = true ∧ b.tpcl.lookup 7 = some 0
        ∧ (b.tpcl.contacts 0).handle = 7 ∧ b.book.handleToContact.lookup 7 = some 0)) = some true := by
    decide +kernel
  obtain ⟨b, hb, hfacts⟩ := Option.map_eq_some_iff.mp hrun
  obtain ⟨hc, hroster, hhandle, hbook⟩ := of_decide_eq_true hfacts
  let change : Contact → Contact := fun c =>
    { c with
      avatarLen := 0
      avatarData := some []
      avatarMime := some "image/png"
      avatarToken := some token }
  refine ⟨b, (b.tpcl.modify 0 change).contacts 0, ⟨_, hb⟩, ?_, ?_⟩
  · unfold Cl.detailsCb
    rw [if_pos hc]
    dsimp only
    unfold Cl.avatarRetrievedCb
    rw [hroster]
    exact List.mem_singleton_self _
  · have hsame : ((b.tpcl.modify 0 change).contacts 0).handle = 7 := by
      rw [Cl.modify_contacts_self]
      exact hhandle
    have htoken : ((b.tpcl.modify 0 change).contacts 0).avatarToken = some token := by
      rw [Cl.modify_contacts_self]
    unfold avatarFileWritten
    rw [hsame, hbook, Option.map_some, Contact.avatarPath_eq home (token_of_avatarDataFrom htoken)]

/-- The cache of the accounts is next to the directory of the images. -/
def intoCache : String := "../db/tp-cache/acct"

/-- An image is written over the database of an account; and two tokens have the same file. -/
theorem avatar_escapes :
    (∃ b cIn, ReachableFrom "acct" "X-JABBER" {} b
      ∧ .avatarDataChanged cIn ∈ (b.tpcl.detailsCb (.avatarRetrieved 7 intoCache [] "image/png")).2
      ∧ b.avatarFileWritten "/home/user".toList cIn
        = some "/home/user/.osso-abook/avatars/../db/tp-cache/acct".toList)
    ∧ ({ Contact.new with avatarToken := some "a" } : Contact).avatarPath "/home/user".toList
      = ({ Contact.new with avatarToken := some "/a" } : Contact).avatarPath "/home/user".toList
    ∧ ¬ AvatarsConfined "/home/user".toList Set.univ := by
  obtain ⟨b, cIn, hb, hsignal, hfile⟩ := avatar_received "/home/user".toList intoCache
  have hpath : avatarDirectory "/home/user".toList ++ tail intoCache.toList
      = "/home/user/.osso-abook/avatars/../db/tp-cache/acct".toList := by decide +kernel
  refine ⟨⟨b, cIn, hb, hsignal, hpath ▸ hfile⟩, by decide +kernel, fun h => ?_⟩
  have hchild := h.written intoCache trivial _ _ _ b hb 7 [] "image/png" cIn hsignal _ hfile
  rw [directChild_iff] at hchild
  exact absurd hchild (by decide +kernel)

/--
**Images stay in their directory, and apart from each other**, exactly where the tokens without
the slashes in front of them are different entry names.
-/
theorem avatars_confined (home : List Char) (tokens : Set String) :
    AvatarsConfined home tokens ↔ TokensUsable tokens := by
  constructor
  · intro h
    have hentry : ∀ token ∈ tokens, EntryName (stripped token) := by
      intro token ht
      obtain ⟨b, cIn, hb, hsignal, hfile⟩ := avatar_received home token
      rw [← directChild_iff (avatarDirectory home)]
      exact h.written token ht _ _ _ b hb 7 [] "image/png" cIn hsignal _ hfile
    refine ⟨hentry, fun token ht token' ht' he => ?_⟩
    by_contra hne
    have hnotEmpty : ∀ t ∈ tokens, t ≠ "" := by
      rintro t hmem rfl
      exact (hentry "" hmem).ne_nil rfl
    refine h.apart token ht token' ht' (hnotEmpty token ht) (hnotEmpty token' ht') hne
      { Contact.new with avatarToken := some token } { Contact.new with avatarToken := some token' }
      rfl rfl ?_
    rw [Contact.avatarPath_eq home rfl, Contact.avatarPath_eq home rfl,
      tail_of_entryName (hentry token ht), tail_of_entryName (hentry token' ht'), he]
  · intro h
    have hchild : ∀ token ∈ tokens, ∀ c : Contact, c.avatarToken = some token →
        DirectChild (avatarDirectory home) (c.avatarPath home) := by
      intro token ht c hc
      rw [Contact.avatarPath_eq home hc, directChild_iff]
      exact h.entryName token ht
    refine ⟨?_, ?_, ?_, ?_⟩
    · intro token ht _ _ _ b _ x data mime cIn hsignal p hp
      obtain ⟨r, -, rfl⟩ := Option.map_eq_some_iff.mp hp
      exact hchild token ht _ (token_of_avatarDataFrom (token_of_avatarRetrieved hsignal))
    · intro b cs hb hcs p hp
      obtain ⟨c, hc, hfile⟩ := mem_avatarFilesTested hb hcs hp
      obtain ⟨token, htoken, rfl⟩ := path_of_avatarFile hfile
      exact hchild token (hc token htoken) c htoken
    · intro token ht c hc p hp
      obtain ⟨-, -, rfl⟩ := path_of_avatarFile hp
      exact hchild token ht c hc
    · intro token ht token' ht' _ _ hne c c' hc hc' he
      rw [Contact.avatarPath_eq home hc, Contact.avatarPath_eq home hc',
        tail_of_entryName (h.entryName token ht), tail_of_entryName (h.entryName token' ht')] at he
      exact hne (h.apart token ht token' ht' (List.cons.inj (List.append_cancel_left he)).2)

end Backend

end EdsTelepathy
