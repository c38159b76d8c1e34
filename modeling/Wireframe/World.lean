import Wireframe.Host

/-!
A world as a value: files, a window system, and what has been shown and
logged so far. A run in a world is a function from the world before it to its
result and the world after it.
-/

namespace Wireframe

structure World where
  files : FileTree
  directory : Location
  windowSystem : WindowSystem
  /-- The windows created so far, the newest first. -/
  windows : List Window
  /-- The records logged so far, the newest first. -/
  records : List LogRecord
  deriving DecidableEq

namespace World

/-- Nothing has been shown or logged yet. -/
def start (files : FileTree) (directory : Location) (windowSystem : WindowSystem) :
    World :=
  ⟨files, directory, windowSystem, [], []⟩

def readText (world : World) (path : String) : Except ReadError String :=
  ReadError.ofContent (world.files.read world.directory path)

def writeFile (world : World) (path : String) (content : FileContent) :
    Except FileError Unit × World :=
  match world.files.write world.directory path content with
  | .error e => (.error e, world)
  | .ok files => (.ok (), { world with files := files })

def createWindow (world : World) (title : String) : Except String Unit × World :=
  match world.windowSystem.reply .create with
  | .error reason => (.error reason, world)
  | .ok () => (.ok (), { world with windows := ⟨title, none, []⟩ :: world.windows })

def updateWindow (world : World) (change : Window → Window) : World :=
  { world with windows := world.windows.modifyHead change }

def setWindowImage (world : World) (name : String) (image : Image) :
    Except String Unit × World :=
  match world.windowSystem.reply .setImage with
  | .error reason => (.error reason, world)
  | .ok () =>
      (.ok (),
        world.updateWindow fun window => { window with image := some (name, image) })

def awaitLeave (world : World) : World :=
  world.updateWindow fun window =>
    { window with eventsRead := WindowEvent.untilLeft world.windowSystem.events }

def log (world : World) (record : LogRecord) : World :=
  { world with records := record :: world.records }

end World

instance : Host (StateM World) where
  readText path := fun world => (world.readText path, world)
  writeFile path content := fun world => world.writeFile path content
  createWindow title := fun world => world.createWindow title
  setWindowImage name image := fun world => world.setWindowImage name image
  listen := fun world => (world.windowSystem.reply .listen, world)
  awaitLeave := fun world => ((), world.awaitLeave)
  log record := fun world => ((), world.log record)

end Wireframe
