import LiveSurface.Proofs.Surface.Run
import LiveSurface.Render.Draw
/-!
# Surfaces do not see one another

A message reads and changes the one surface that it names. What a list of messages makes of a surface is
therefore what the messages about that surface make of it alone, `Message.actAll`, and the others of the list
might as well not be there. They could not even stop it: a list of messages goes through exactly if the messages
about each surface do.

Results:
* `Store.after?_ok_iff`: a list of messages, taken apart into the lists about each surface.
* `Store.draw_congr`: a surface is drawn from what the store holds under its id.
* `Store.applyAll_isolated`: the other messages do not matter to a surface, nor does their order.
-/
namespace LiveSurface

namespace Message

/-- The messages about a surface, in order. -/
def about (id : String) (messages : List Message) : List Message := messages.filter (·.surface = id)

/-- What messages that are all about one surface make of it. -/
def actAll (settings : Settings) (s? : Option Surface) (messages : List Message) :
    Except LongNumeral (Option Surface) :=
  messages.foldlM (fun s? m => m.act settings s?) s?

theorem about_cons (id : String) (m : Message) (rest : List Message) :
    about id (m :: rest) = if m.surface = id then m :: about id rest else about id rest := by
  simp [about, List.filter_cons]

theorem about_about (other id : String) (messages : List Message) :
    about other (about id messages) = if other = id then about id messages else [] := by
  unfold about
  rw [List.filter_filter]
  split
  · rename_i h
    subst h
    simp
  · rename_i h
    rw [List.filter_eq_nil_iff]
    intro m _ hm
    simp only [Bool.and_eq_true, decide_eq_true_eq] at hm
    exact h (hm.1.symm.trans hm.2)

theorem actAll_cons (settings : Settings) (s? : Option Surface) (m : Message) (rest : List Message) :
    actAll settings s? (m :: rest) = (m.act settings s?).bind fun s? => actAll settings s? rest := by
  rw [actAll, List.foldlM_cons]
  rfl

end Message

namespace Store

/-- One message at the front of a list, seen from a surface. -/
theorem actAll_about_cons {settings : Settings} {store : Store} {m : Message} {s? : Option Surface}
    (ha : m.act settings (store.surface? m.surface) = .ok s?) (rest : List Message) (id : String) :
    Message.actAll settings (store.surface? id) (Message.about id (m :: rest)) =
      Message.actAll settings ((store.place m.surface s?).surface? id) (Message.about id rest) := by
  rw [Message.about_cons, surface?_place]
  by_cases hid : m.surface = id
  · subst hid
    rw [if_pos rfl, if_pos rfl, Message.actAll_cons, ha]
    rfl
  · rw [if_neg hid, if_neg (Ne.symm hid)]

/-- **A list of messages, surface by surface.** It goes through and leaves certain surfaces exactly if for each
surface the messages about it go through and leave that one. -/
theorem after?_ok_iff (settings : Settings) (store : Store) (messages : List Message)
    (left : String → Option Surface) :
    (∃ last, store.after? settings messages = .ok last ∧ ∀ id, last.surface? id = left id) ↔
      ∀ id, Message.actAll settings (store.surface? id) (Message.about id messages) = .ok (left id) := by
  induction messages generalizing store with
  | nil =>
    constructor
    · rintro ⟨last, ⟨⟩, hleft⟩ id
      exact congrArg Except.ok (hleft id)
    · intro h
      exact ⟨store, rfl, fun id => Except.ok.inj (h id)⟩
  | cons m rest ih =>
    rw [after?_cons]
    cases ha : m.act settings (store.surface? m.surface) with
    | error e =>
      refine ⟨fun ⟨_, hlast, _⟩ => (nomatch hlast), fun h => ?_⟩
      have hm := h m.surface
      rw [Message.about_cons, if_pos rfl, Message.actAll_cons, ha] at hm
      cases hm
    | ok s? =>
      simp only [actAll_about_cons ha]
      exact ih (store.place m.surface s?)

theorem draw_congr {a b : Store} {id : String} (h : a.surface? id = b.surface? id) (settings : Settings) :
    a.draw settings id = b.draw settings id := by
  unfold draw
  rw [h]

/-- Two stores hold the same under an id, a surface or none, and draw it alike. -/
structure AgreeOn (id : String) (a b : Store) : Prop where
  surface? : a.surface? id = b.surface? id
  draw : ∀ settings, a.draw settings id = b.draw settings id

theorem agreeOn_of_surface? {a b : Store} {id : String} (h : a.surface? id = b.surface? id) : AgreeOn id a b :=
  ⟨h, draw_congr h⟩

/-- **Surface isolation.** If a list of messages goes through, then for each surface the messages about it go
through alone and leave the surface the same. Any other list with the same messages about each surface, in the
same order, goes through as well and leaves every surface the same. -/
theorem applyAll_isolated (settings : Settings) (store : Store) (messages : List Message) {r : BatchResult}
    (h : (store.applyAll settings messages).2.result = .ok r) :
    (∀ id, (∃ r', (store.applyAll settings (Message.about id messages)).2.result = .ok r') ∧
        AgreeOn id (store.applyAll settings (Message.about id messages)).1
          (store.applyAll settings messages).1) ∧
      ∀ other, (∀ id, Message.about id other = Message.about id messages) →
        (∃ r', (store.applyAll settings other).2.result = .ok r') ∧
          ∀ id, AgreeOn id (store.applyAll settings other).1 (store.applyAll settings messages).1 := by
  have hrun := (applyAll_ok_iff settings store _ messages).mp ⟨⟨r, h⟩, rfl⟩
  have hown := (after?_ok_iff settings store messages _).mp ⟨_, hrun, fun _ => rfl⟩
  constructor
  · intro id
    -- Alone, the messages about `id` leave every other surface as it was.
    have halone : ∀ other, Message.actAll settings (store.surface? other)
        (Message.about other (Message.about id messages)) =
        .ok (if other = id then (store.applyAll settings messages).1.surface? id else store.surface? other) := by
      intro other
      rw [Message.about_about]
      by_cases hid : other = id
      · subst hid
        rw [if_pos rfl, if_pos rfl]
        exact hown other
      · rw [if_neg hid, if_neg hid]
        rfl
    obtain ⟨last, hlast, hleft⟩ := (after?_ok_iff settings store _ _).mpr halone
    obtain ⟨hok, rfl⟩ := (applyAll_ok_iff settings store last _).mpr hlast
    exact ⟨hok, agreeOn_of_surface? ((hleft id).trans (if_pos rfl))⟩
  · intro other hsame
    have hother : ∀ id, Message.actAll settings (store.surface? id) (Message.about id other) =
        .ok ((store.applyAll settings messages).1.surface? id) := by
      intro id
      rw [hsame]
      exact hown id
    obtain ⟨last, hlast, hleft⟩ := (after?_ok_iff settings store _ _).mpr hother
    obtain ⟨hok, rfl⟩ := (applyAll_ok_iff settings store last _).mpr hlast
    exact ⟨hok, fun id => agreeOn_of_surface? (hleft id)⟩

/-- Messages about two surfaces, taken in turns: a deletion and a second life, a reset, updates that come too
early or bring no value. -/
def takenInTurns : List Message :=
  [.updateDataModel "b" none none (some .null), .createSurface "a" (some "plain"), .createSurface "b" none,
   .updateDataModel "a" (some "/n") (some "add") (some (.bool true)),
   .updateComponents "b" [⟨"root", .divider none, []⟩], .deleteSurface "a",
   .updateDataModel "b" (some "/n") none none, .createSurface "b" (some ""), .createSurface "a" none,
   .updateComponents "b" [⟨"root", .text (some (.plain (.bool true))) none, []⟩]]

/-- The same messages, first all about the one surface and then all about the other. -/
def oneAfterTheOther : List Message :=
  [.createSurface "a" (some "plain"), .updateDataModel "a" (some "/n") (some "add") (some (.bool true)),
   .deleteSurface "a", .createSurface "a" none,
   .updateDataModel "b" none none (some .null), .createSurface "b" none,
   .updateComponents "b" [⟨"root", .divider none, []⟩], .updateDataModel "b" (some "/n") none none,
   .createSurface "b" (some ""), .updateComponents "b" [⟨"root", .text (some (.plain (.bool true))) none, []⟩]]

theorem about_oneAfterTheOther (id : String) :
    Message.about id oneAfterTheOther = Message.about id takenInTurns := by
  by_cases ha : "a" = id
  · subst ha; rfl
  · by_cases hb : "b" = id
    · subst hb; rfl
    · simp [Message.about, oneAfterTheOther, takenInTurns, Message.surface, ha, hb]

/-- The surfaces are listed in different orders, but each of them is the same, with or without the other. -/
theorem applyAll_isolated_takenInTurns :
    (Store.empty.applyAll {} takenInTurns).2.result = .ok ⟨8, 2, ["a", "b"]⟩ ∧
      (Store.empty.applyAll {} takenInTurns).1.ids = ["b", "a"] ∧
      (Store.empty.applyAll {} oneAfterTheOther).1.ids = ["a", "b"] ∧
      AgreeOn "b" (Store.empty.applyAll {} (Message.about "b" takenInTurns)).1
        (Store.empty.applyAll {} takenInTurns).1 ∧
      ∀ id, AgreeOn id (Store.empty.applyAll {} oneAfterTheOther).1 (Store.empty.applyAll {} takenInTurns).1 := by
  have hresult : (Store.empty.applyAll {} takenInTurns).2.result = .ok ⟨8, 2, ["a", "b"]⟩ := rfl
  obtain ⟨halone, hother⟩ := applyAll_isolated {} .empty takenInTurns hresult
  exact ⟨hresult, rfl, rfl, (halone "b").2, (hother oneAfterTheOther about_oneAfterTheOther).2⟩

end Store

end LiveSurface
