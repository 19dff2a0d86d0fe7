import Switchboard.Command.Parse

/-!
# What a message comes to

Before any handler runs, the world decides what becomes of a message: its prefix, the registered
entry and the home room.  `World.resolve` is that decision, and `parse_run` says that `parse`
reports it and acts on it, in the world it was made in and nowhere else.

* `parse_run`: running a command is reporting its resolution and acting on it.
* `resolve_eq_call_iff`: a handler is called exactly if its entry is registered under the first
  word and the room check passes, and this is what it is called with.
-/

namespace Switchboard

variable {H M : Type}

/-! ## Resolutions -/

/-- What a message comes to in a world, before any handler runs. -/
inductive Resolution (H : Type) where
  /-- No command has the name. -/
  | unknown (name : Text)
  /-- The command only runs in the home room, and the message is from another channel. -/
  | elsewhere (name channel : Text)
  /-- The handler of the entry is called. -/
  | call (name : Text) (entry : Entry H) (invocation : Invocation)

/-- What a message and further arguments come to, by the prefixes, the registry and the home room
of the world. -/
def World.resolve (w : World H M) (message : Record) (extra : List Text) : Resolution H :=
  let body := w.body message.message
  let name := (words body).1
  match w.registry.lookup name with
  | none => .unknown name
  | some entry =>
    if entry.global || w.config.isHome message.channel then
      .call name entry { message := message.withMessage body, args := (words body).2 ++ extra }
    else .elsewhere name message.channel

namespace Resolution

/-- The event that reports a resolution. -/
def event : Resolution H → Event
  | unknown name => .unknownCommand name
  | elsewhere name channel => .homeRoomOnly name channel
  | call name _ invocation => .running name invocation

/-- What is done about a resolution: at most one handler is called. -/
def act (meaning : Meaning H M) : Resolution H → Action (World H M) Failure CommandResult
  | unknown _ | elsewhere _ _ => return .silent
  | call name entry invocation => (meaning entry invocation).mapError (.command name)

end Resolution

/-- **Running a command is reporting its resolution and acting on it.** -/
theorem parse_run (meaning : Meaning H M) (message : Record) (extra : List Text) (w : World H M) :
    (parse meaning message extra).run w =
      ⟨(((w.resolve message extra).act meaning).run w).outcome,
       (((w.resolve message extra).act meaning).run w).world,
       ⟨(w.resolve message extra).event, none⟩ ::
         (((w.resolve message extra).act meaning).run w).log⟩ := by
  unfold parse World.resolve
  rw [Action.run_bind, Action.run_get]
  cases hlookup : w.registry.lookup (words (w.body message.message)).1 with
  | none => simp only [hlookup]; rfl
  | some entry =>
    cases hroom : entry.global || w.config.isHome message.channel with
    | true =>
      have hnot : (!entry.global && !w.config.isHome message.channel) = false := by
        rw [← Bool.not_or, hroom]; rfl
      simp only [hlookup, hnot, hroom]; rfl
    | false =>
      have hnot : (!entry.global && !w.config.isHome message.channel) = true := by
        rw [← Bool.not_or, hroom]; rfl
      simp only [hlookup, hnot, hroom]; rfl

/-! ## The three ways -/

variable {w : World H M} {message : Record} {extra : List Text} {name : Text} {own : List Text}
  {entry : Entry H}

theorem resolve_of_lookup_eq_none (hwords : words (w.body message.message) = (name, own))
    (hlookup : w.registry.lookup name = none) : w.resolve message extra = .unknown name := by
  simp only [World.resolve, hwords, hlookup]

theorem resolve_of_elsewhere (hwords : words (w.body message.message) = (name, own))
    (hlookup : w.registry.lookup name = some entry) (hglobal : entry.global = false)
    (hroom : message.channel ≠ w.config.room) :
    w.resolve message extra = .elsewhere name message.channel := by
  have hhome : w.config.isHome message.channel = false := beq_eq_false_iff_ne.mpr hroom.symm
  simp only [World.resolve, hwords, hlookup, hglobal, hhome, Bool.or_self, Bool.false_eq_true,
    if_false]

theorem resolve_of_pass (hwords : words (w.body message.message) = (name, own))
    (hlookup : w.registry.lookup name = some entry)
    (hpass : entry.global = true ∨ message.channel = w.config.room) :
    w.resolve message extra = .call name entry
      { message := message.withMessage (w.body message.message), args := own ++ extra } := by
  have hroom : (entry.global || w.config.isHome message.channel) = true := by
    rw [Bool.or_eq_true, Config.isHome, beq_iff_eq, eq_comm (a := w.config.room)]
    exact hpass
  simp only [World.resolve, hwords, hlookup, hroom, if_true]

/-- **A handler is called exactly if its entry is registered under the first word of the body and
the room check passes**; it gets the record with the body for its message, and the other words
before the further arguments. -/
theorem resolve_eq_call_iff {invocation : Invocation} :
    w.resolve message extra = .call name entry invocation ↔
      name = (words (w.body message.message)).1 ∧ w.registry.lookup name = some entry ∧
      (entry.global = true ∨ message.channel = w.config.room) ∧
      invocation = { message := message.withMessage (w.body message.message),
                     args := (words (w.body message.message)).2 ++ extra } := by
  obtain ⟨n, own, hwords⟩ : ∃ n own, words (w.body message.message) = (n, own) := ⟨_, _, rfl⟩
  rw [hwords]
  constructor
  · intro h
    cases hlookup : w.registry.lookup n with
    | none => rw [resolve_of_lookup_eq_none hwords hlookup] at h; cases h
    | some e =>
      by_cases hpass : e.global = true ∨ message.channel = w.config.room
      · rw [resolve_of_pass hwords hlookup hpass] at h
        cases h
        exact ⟨rfl, hlookup, hpass, rfl⟩
      · rw [not_or, Bool.not_eq_true] at hpass
        rw [resolve_of_elsewhere hwords hlookup hpass.1 hpass.2] at h
        cases h
  · rintro ⟨rfl, hlookup, hpass, rfl⟩
    exact resolve_of_pass hwords hlookup hpass

end Switchboard
