import Wireframe.Image

/-!
Windows that show an image until they are left, and the events that arrive at them.
-/

namespace Wireframe

inductive Key where
  | escape
  | space
  deriving DecidableEq

/-- A key press may come without a key that is known. -/
inductive WindowEvent where
  | key (key : Option Key) (pressed : Bool)
  | closeRequested
  | focusChanged
  deriving DecidableEq

namespace WindowEvent

/-- Escape leaves a window when it is pressed, not when it is released. -/
def leaves : WindowEvent → Bool
  | key (some .escape) pressed => pressed
  | key _ _ => false
  | closeRequested => true
  | focusChanged => false

def untilLeft : List WindowEvent → List WindowEvent
  | [] => []
  | event :: events => event :: if event.leaves then [] else untilLeft events

end WindowEvent

inductive WindowRequest where
  | create
  | setImage
  | listen
  deriving DecidableEq

structure Window where
  title : String
  image : Option (String × Image)
  eventsRead : List WindowEvent
  deriving DecidableEq

/-- What a window system does: the events that arrive at each window, and a
request it turns down. -/
structure WindowSystem where
  events : List WindowEvent
  failure : Option (WindowRequest × String)
  deriving DecidableEq

def WindowSystem.reply (system : WindowSystem) (request : WindowRequest) :
    Except String Unit :=
  match system.failure with
  | none => .ok ()
  | some (refused, reason) => if request = refused then .error reason else .ok ()

end Wireframe
