import FrameChat.Service.Rooms

/-!
# Streams

Streams are connections that are served in the background: whenever a frame is
published, it is written to those that watch.  A stream whose client went away
is noticed at its next write, and its viewer leaves then, which may publish more
frames to others.
-/

namespace FrameChat.Service

/-- Begin to serve the connection of a session; the number of the stream is returned. -/
def openStream (channel session : Nat) : Op Nat :=
  .act fun service =>
    (service.streams.size,
      { service with streams := service.streams.push ⟨channel, session, false, false, []⟩ })

/-- Pairs of header and frame in a sequence of writes. -/
def partsOf : List Channel.Write → List Part
  | .header header :: .data frame :: rest => ⟨header, frame⟩ :: partsOf rest
  | _ :: rest => partsOf rest
  | [] => []

/-- Serve a stream; if its viewer has to leave now, channel and session are returned. -/
def serveStream (index : Nat) : Op (Option (Nat × Nat)) :=
  .act fun service =>
    match service.streams[index]? with
    | none => (none, service)
    | some stream =>
        if stream.finished then (none, service)
        else
          let allowance := if stream.gone then some 0 else none
          let (transcript, service) :=
            withChannel stream.channel (·.serveSession stream.session allowance) service
          let stream :=
            { stream with
              finished := transcript.outcome.isSome
              unread := stream.unread ++ partsOf transcript.writes }
          let leaves :=
            match transcript.outcome with
            | some .disconnected | some .closed => some (stream.channel, stream.session)
            | some .displaced | none => none
          (leaves, { service with streams := service.streams.setIfInBounds index stream })

/-- Serve streams one after the other; the viewers that have to leave are returned. -/
def serveStreams : List Nat → Op (List (Nat × Nat))
  | [] => return []
  | index :: rest => do
      let leaves ← serveStream index
      let more ← serveStreams rest
      return leaves.toList ++ more

/-- Let viewers leave; what is abandoned in between does not keep the others. -/
def leaveAll : List (Nat × Nat) → Op Unit
  | [] => return
  | (channel, session) :: rest => do
      discard (leave channel session).attempt
      leaveAll rest

/-- Serve all streams until no viewer leaves any more, at most `rounds` times. -/
def serveRounds : (rounds : Nat) → Op Unit
  | 0 => return
  | rounds + 1 => do
      let count ← Operation.ask fun service => service.streams.size
      match ← serveStreams (List.range count) with
      | [] => return
      | leaves => do
          leaveAll leaves
          serveRounds rounds

/-- Serve all streams until nothing is left to do: each viewer leaves at most once. -/
def serveAll : Op Unit := do
  let count ← Operation.ask fun service => service.streams.size
  serveRounds (count + 1)

/--
Take what a client has not read; whether the stream ended is returned beside
it.  For a client that is gone it has.
-/
def readStream (index : Nat) : Op (List Part × Bool) :=
  .act fun service =>
    match service.streams[index]? with
    | none => (([], true), service)
    | some stream =>
        ((stream.unread, stream.finished || stream.gone),
          { service with
            streams := service.streams.setIfInBounds index { stream with unread := [] } })

/-- The client of a stream goes away. -/
def dropStream (index : Nat) : Op Unit :=
  .modify fun service =>
    { service with streams := service.streams.modify index fun stream => { stream with gone := true } }

end FrameChat.Service
