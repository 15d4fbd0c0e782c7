import FrameChat.Proofs.Channel.Touches
import FrameChat.Service

/-!
# Whoever opens, finds and sweeps

A channel is opened in three steps: the name is looked up, the channel is loaded
while the directory is free for others, and what was loaded is put under its name
or, if another instance is live there by now, closed.  A sweep holds the directory
from its beginning to its end, and looks at one entry after the other; channels are
not held meanwhile, so that somebody may come to watch or leave between two looks.

A `Move` is one such step, or one step on a channel, and a `House` is what came of
some moves.  Beside the service a house keeps account of the openings and the sweep
that are under way, and of every instance that was returned to somebody.  A move
that is not possible, for example one that has to wait for the directory, changes
nothing; so any list of moves is an interleaving of any number of requests.
-/

namespace FrameChat

/-- What came of some moves. -/
structure House where
  service : Service
  /-- the names that somebody has not found and is about to load -/
  loading : List String
  /-- instances that were loaded and are about to be put under their names -/
  loaded : List (String × Nat)
  /-- instances that were loaded in vain and are about to be closed -/
  surplus : List Nat
  /-- what a sweep has yet to look at, if one holds the directory -/
  sweeping : Option (List (String × Nat))
  /-- every instance that somebody was given, with the name that was asked for -/
  given : List (String × Nat)

namespace House

/-- One step of a request. -/
inductive Move where
  /-- find a name -/
  | find (name : String)
  /-- begin to open a name -/
  | seek (name : String)
  /-- end the loading of a name, with what the archive had of it -/
  | load (pick : Nat) (history : List Message) (active : Seconds) (counter : UInt64)
      (notices : PerViewport Frame)
  /-- give up the loading of a name -/
  | giveUp (pick : Nat)
  /-- put what was loaded under its name -/
  | insert (pick : Nat)
  /-- close what was loaded in vain -/
  | discard (pick : Nat)
  /-- one step on a channel of somebody who was given it, or of drawing it -/
  | touch (index : Nat) (touch : Channel.Touch)
  /-- begin a sweep -/
  | sweep
  /-- look at an entry, and close and drop it if nobody watches -/
  | check (pick : Nat)
  /-- end a sweep -/
  | release
  /-- anything that concerns neither channels nor the directory -/
  | aside (change : Service → Service)

variable (house : House)

/-- What stands in the directory. -/
def entries : List (String × Nat) :=
  house.service.directory.entries

/-- Whether a request that needs the directory can go on. -/
def free : Bool :=
  house.sweeping.isNone

/-- Return an instance to somebody who asked for a name. -/
def give (name : String) (index : Nat) : House :=
  { house with given := (name, index) :: house.given }

/-- Take a channel in that was loaded from its history. -/
def takeIn (pick : Nat) (name : String) (channel : Channel) : House :=
  { house with
    service := { house.service with channels := house.service.channels.push channel }
    loading := house.loading.eraseIdx pick
    loaded := (name, house.service.channels.size) :: house.loaded }

/-- Put a loaded instance under its name, unless another one is live there. -/
def settle (pick : Nat) (name : String) (index : Nat) : House :=
  let house := { house with loaded := house.loaded.eraseIdx pick }
  match house.service.directory.insert house.service.isClosed name index with
  | (some existing, _) => { house with surplus := index :: house.surplus }.give name existing
  | (none, directory) => { house with service := { house.service with directory } }.give name index

/-- Change a channel. -/
def onChannel (index : Nat) (change : Channel → Channel) : House :=
  { house with
    service := (Service.withChannel index (fun channel => ((), change channel)) house.service).2 }

/-- Whether somebody was given an instance. -/
def isGiven (index : Nat) : Bool :=
  house.given.any fun entry => entry.2 == index

/-- Look at an entry: close and drop it if nobody watches. -/
def look (entry : String × Nat) : House :=
  if (house.service.channel entry.2).closeIfIdle.1 then
    let house := house.onChannel entry.2 fun channel => channel.closeIfIdle.2
    { house with
      service := { house.service with
        directory := { house.service.directory with
          entries := house.entries.filter fun other => other ≠ entry } } }
  else house

/-- Number of viewers of all channels in the directory. -/
def viewers : Nat :=
  house.entries.foldr (fun entry count => (house.service.channel entry.2).roster.count + count) 0

def step : Move → House
  | .find name =>
      if house.free then
        match house.service.find? name with
        | some index => house.give name index
        | none => house
      else house
  | .seek name =>
      if house.free && !name.isEmpty then
        match house.service.find? name with
        | some index => house.give name index
        | none => { house with loading := name :: house.loading }
      else house
  | .load pick history active counter notices =>
      match house.loading[pick]? with
      | some name =>
          house.takeIn pick name (Channel.ofHistory name house.service.channelSettings history active
            counter notices house.service.instant)
      | none => house
  | .giveUp pick => { house with loading := house.loading.eraseIdx pick }
  | .insert pick =>
      match house.loaded[pick]? with
      | some (name, index) => if house.free then house.settle pick name index else house
      | none => house
  | .discard pick =>
      match house.surplus[pick]? with
      | some index =>
          { house.onChannel index Channel.close with surplus := house.surplus.eraseIdx pick }
      | none => house
  | .touch index touch =>
      if touch.draws || house.isGiven index then house.onChannel index (·.touch touch) else house
  | .sweep => if house.free then { house with sweeping := some house.entries } else house
  | .check pick =>
      match house.sweeping with
      | some left =>
          match left[pick]? with
          | some entry => { house.look entry with sweeping := some (left.eraseIdx pick) }
          | none => house
      | none => house
  | .release =>
      match house.sweeping with
      | some [] =>
          { house with
            service := { house.service with
              directory := { house.service.directory with totalViewers := house.viewers } }
            sweeping := none }
      | _ => house
  | .aside change =>
      { house with
        service := { change house.service with
          channels := house.service.channels
          directory := house.service.directory } }

def run (moves : List Move) : House :=
  moves.foldl step house

end House

end FrameChat
