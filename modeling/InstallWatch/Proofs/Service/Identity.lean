import Mathlib
import InstallWatch.Proofs.Command.Events
import InstallWatch.Proofs.Uuid

/-!
What a listing says of who is registered. Its length decides, and only of a single item the content matters: it has to be
an object with an identifier. The text of an identifier that was found is canonical and finds this identifier again, so
that it can be shown, and sent back to the service, in the place of the one that the service wrote.
-/

namespace InstallWatch.Service

namespace Identity

/-- The item is an object whose member `id` is shown as a text that spells the identifier. -/
def Identifies (item : Json) (u : Uuid) : Prop :=
  ∃ members id, item = .object members ∧ members.lookup "id" = some id ∧ Uuid.parse? id.display = some u

/-- What a listing is read as. -/
inductive Classified : List Json → Identity → Prop where
  | registered {item : Json} {u : Uuid} (identifies : Identifies item u) : Classified [item] (.registered u)
  | unregistered : Classified [] .unregistered
  | ambiguous {items : List Json} (several : 2 ≤ items.length) : Classified items (.ambiguous items.length)

theorem ofItem_eq_ok_iff {item : Json} {u : Uuid} : ofItem item = .ok u ↔ Identifies item u := by
  constructor
  · intro found
    unfold ofItem at found
    split at found
    · rename_i members
      split at found
      · cases found
      · rename_i id given
        split at found
        · cases found
        · rename_i v spells
          cases found
          exact ⟨members, id, rfl, given, spells⟩
    · cases found
  · rintro ⟨members, id, rfl, given, spells⟩
    simp only [ofItem, given, spells]

/-- An object that gives an identifier by its own text has this identifier. -/
theorem identifies_text {members : List (String × Json)} {u : Uuid} (given : members.lookup "id" = some (.text u.text)) :
    Identifies (.object members) u :=
  ⟨members, .text u.text, rfl, given, u.parse?_text⟩

/-- A listing that is read as something is read as what its length and its only item say. -/
theorem ofListing_eq_ok_iff {items : List Json} {i : Identity} : ofListing items = .ok i ↔ Classified items i := by
  constructor
  · intro found
    rcases items with _ | ⟨item, _ | ⟨item', rest⟩⟩
    · cases found
      exact .unregistered
    · cases identified : ofItem item with
      | error fault => simp [ofListing, identified] at found
      | ok u =>
        obtain rfl : .registered u = i := by simpa [ofListing, identified] using found
        exact .registered (ofItem_eq_ok_iff.mp identified)
    · cases found
      exact .ambiguous (by simp)
  · intro classified
    cases classified with
    | registered identifies => simp [ofListing, ofItem_eq_ok_iff.mpr identifies]
    | unregistered => rfl
    | ambiguous several =>
      rcases items with _ | ⟨item, _ | ⟨item', rest⟩⟩
      · simp at several
      · simp at several
      · rfl

/-- Only a single item without an identifier makes the reading of a listing fail. -/
theorem ofListing_fails_iff {items : List Json} :
    (∃ b, ofListing items = .error b) ↔ ∃ item, items = [item] ∧ ∀ u, ¬ Identifies item u := by
  constructor
  · rintro ⟨b, failed⟩
    rcases items with _ | ⟨item, _ | ⟨item', rest⟩⟩
    · cases failed
    · refine ⟨item, rfl, fun u identifies => ?_⟩
      simp [ofListing, ofItem_eq_ok_iff.mpr identifies] at failed
    · cases failed
  · rintro ⟨item, rfl, unidentified⟩
    cases identified : ofItem item with
    | error fault => exact ⟨⟨item, fault⟩, by simp [ofListing, identified]⟩
    | ok u => exact absurd (ofItem_eq_ok_iff.mp identified) (unidentified u)

/-- A listing is read as something in exactly one of three cases, which its length tells apart. -/
theorem Classified.tells {items : List Json} {i : Identity} (h : Classified items i) :
    i.count = items.length ∧ (i.status = "not-registered" ↔ items.length = 0) ∧
      (i.status = "resolved" ↔ items.length = 1) ∧ (i.status = "ambiguous" ↔ 2 ≤ items.length) := by
  cases h with
  | registered identifies => simp [count, status]
  | unregistered => simp [count, status]
  | ambiguous several =>
    refine ⟨rfl, ?_, ?_, by simp [status, several]⟩
    · simp only [status]
      exact iff_of_false (by decide) (by omega)
    · simp only [status]
      exact iff_of_false (by decide) (by omega)

theorem isSome_id?_iff (i : Identity) : i.id?.isSome = true ↔ i.status = "resolved" := by
  cases i <;> simp [id?, status]

end Identity

section
open InstallWatch.Command

variable {T : Type} [Seconds T]

theorem requests_printEvents (c : Client T) (id : String) (s : Session T) :
    (printEvents c id s).1.requests = (c.list (.events id) s).1.requests := by
  unfold printEvents Client.events
  generalize c.list (.events id) s = listed
  obtain ⟨s', result⟩ := listed
  cases result with
  | error f =>
    dsimp only [eventsFailed]
    split <;> rfl
  | ok es =>
    dsimp only
    split <;> rfl

/-- Where one infra-env is listed, its events are asked for by the text of its identifier. -/
theorem requests_showEvents {c : Client T} {s : Session T} {item : Json} {u : Uuid} (free : s.hasWorker = true)
    (lists : c.Lists .infraEnvs s [item]) (identifies : Identity.Identifies item u) :
    (showEvents none c s).1.requests = s.requests ++
      [c.request .infraEnvs s, c.request (.events u.text) (c.list .infraEnvs s).1] := by
  obtain ⟨a, delivers, -⟩ := id lists
  have opened := delivers.hears.isOpen
  have lasts := delivers.hears.lasts
  have opened' : (c.list .infraEnvs s).1.isOpen = true :=
    (c.usable_list _ (.inl opened)).resolve_right (by simp [delivers.inTime])
  -- the worker is free again once the listing is there
  have free' : (c.list .infraEnvs s).1.hasWorker = true := by
    rw [c.list_fst .infraEnvs opened lasts, Session.hasWorker, Session.strays_exchange_of_ended free delivers.returns]
    exact free
  rw [showEvents_of_asks (.registered item u lists (Identity.ofItem_eq_ok_iff.mpr identifies)), requests_printEvents,
    c.requests_list_of_hasWorker _ opened' delivers.inTime free', c.requests_list_of_hasWorker _ opened lasts free,
    List.append_assoc, List.singleton_append]

/-- The reading of a listing fails for a single item without an identifier and for nothing else. Otherwise its length
tells the case, and only one item gives an identifier: its own one, which is shown by its canonical text, is found again
under this text, and is what the service is asked for the events of, if a worker is free to do so. -/
theorem listing_identifies (items : List Json) :
    ((∃ b, Identity.ofListing items = .error b) ↔ ∃ item, items = [item] ∧ ∀ u, ¬ Identity.Identifies item u) ∧
    ∀ i, Identity.ofListing items = .ok i →
      (i.count = items.length ∧ (i.status = "not-registered" ↔ items.length = 0) ∧
        (i.status = "resolved" ↔ items.length = 1) ∧ (i.status = "ambiguous" ↔ 2 ≤ items.length)) ∧
      (i.id?.isSome = true ↔ i.status = "resolved") ∧
      ∀ u, i.id? = some u →
        (∃ item, items = [item] ∧ Identity.Identifies item u) ∧ i.describe = u.text ∧ Uuid.Canonical u.text ∧
        (∀ members, members.lookup "id" = some (.text u.text) → Identity.ofListing [.object members] = .ok i) ∧
        ∀ (c : Client T) (s : Session T), s.hasWorker = true → c.Lists .infraEnvs s items →
          ∃ listing asked, (showEvents none c s).1.requests = s.requests ++ [listing, asked] ∧
            asked.fields = [("infra_env_id", u.text)] := by
  refine ⟨Identity.ofListing_fails_iff, fun i found => ?_⟩
  have classified := Identity.ofListing_eq_ok_iff.mp found
  refine ⟨classified.tells, i.isSome_id?_iff, fun u carries => ?_⟩
  cases classified with
  | unregistered => cases carries
  | ambiguous several => cases carries
  | @registered item v identifies =>
    obtain rfl : v = u := Option.some.inj carries
    refine ⟨⟨item, rfl, identifies⟩, rfl, v.canonical_text, ?_, ?_⟩
    · intro members given
      exact Identity.ofListing_eq_ok_iff.mpr (.registered (Identity.identifies_text given))
    · intro c s free lists
      exact ⟨_, _, requests_showEvents free lists identifies, rfl⟩

/-- The identifier is given as a number, whose digits are read as hexadecimal ones. -/
theorem listing_identifies_number :
    ∃ u : Uuid, u.text = "12345678-1234-5678-1234-567812345678" ∧
      Identity.Identifies (.object [("id", .int 12345678123456781234567812345678)]) u ∧ Uuid.Canonical u.text ∧
      Identity.ofListing [.object [("id", .text u.text), ("name", .null)]] = .ok (.registered u) := by
  have read : ((Identity.ofListing [.object [("id", .int 12345678123456781234567812345678)]]).toOption.bind
      Identity.id?).map Uuid.text = some "12345678-1234-5678-1234-567812345678" := by decide +kernel
  obtain ⟨u, carries, text⟩ := Option.map_eq_some_iff.mp read
  obtain ⟨i, found, carried⟩ := Option.bind_eq_some_iff.mp carries
  cases listed : Identity.ofListing [.object [("id", .int 12345678123456781234567812345678)]] with
  | error b =>
    rw [listed] at found
    cases found
  | ok j =>
    rw [listed] at found
    cases found
    obtain ⟨-, of⟩ := listing_identifies (T := Float) [.object [("id", .int 12345678123456781234567812345678)]]
    obtain ⟨-, -, carrying⟩ := of i listed
    obtain ⟨⟨item, single, identifies⟩, -, canonical, again, -⟩ := carrying u carried
    cases single
    have kept : i = .registered u := by
      cases i <;> cases carried
      rfl
    refine ⟨u, text, identifies, canonical, ?_⟩
    rw [again _ rfl, kept]

end

end InstallWatch.Service
