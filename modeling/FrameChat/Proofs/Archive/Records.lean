import FrameChat.Proofs.Archive.Index

/-!
# Reading the records of an archive

What an archive has of a channel are records, one after the other in the order of their
numbers, and a channel is loaded as what is read of them (`Backend.load_eq_decodeAll_records`).

A record that is too long cannot be read, and then nothing of its channel is given out.  But
whatever is given out is what the records were written for (`Backend.Holds.eq_of_load`).
-/

namespace FrameChat.Archive

/-- What is read of the records of messages are these messages. -/
theorem eq_of_decodeAll_map_encode {messages history : List Message}
    (read : Memory.decodeAll (messages.map Message.Record.encode) = .ok history) :
    history = messages := by
  induction messages generalizing history with
  | nil => exact (Except.ok.inj read).symm
  | cons message rest ih =>
      rw [Memory.decodeAll, List.map_cons, List.mapM_cons] at read
      cases first : Message.Record.decode (Message.Record.encode message) with
      | error fault => simp [first, bind, Except.bind] at read
      | ok decoded =>
          obtain rfl := (Message.Record.decode_encode_eq_ok_iff.mp first).2
          cases others : Memory.decodeAll (rest.map Message.Record.encode) with
          | error fault =>
              rw [Memory.decodeAll] at others
              simp [first, others, bind, Except.bind] at read
          | ok messages =>
              obtain rfl := ih others
              rw [Memory.decodeAll] at others
              simp only [first, others, bind, Except.bind, pure, Except.pure, Except.ok.injEq]
                at read
              exact read.symm

namespace Backend

variable {backend : Backend} {contents : Contents} {channel : String}

/-- A channel is loaded as what is read of its records. -/
theorem load_eq_decodeAll_records (backend : Backend) (channel : String) :
    backend.load channel = Memory.decodeAll (backend.records channel) := by
  cases backend <;> rfl

/-- What is given out of a channel is what is held of it. -/
theorem Holds.eq_of_load (holds : backend.Holds contents) {history : List Message}
    (given : backend.load channel = .ok history) : history = contents channel := by
  rw [load_eq_decodeAll_records, holds.records] at given
  exact eq_of_decodeAll_map_encode given

end Backend

end FrameChat.Archive
