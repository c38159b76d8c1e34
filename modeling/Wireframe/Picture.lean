import Wireframe.Host
import Wireframe.Image.Palette
import Wireframe.Text.Record

/-!
Finished pictures leave a run in two ways: as files, and in windows.
-/

namespace Wireframe

inductive PictureError where
  | file (error : FileError)
  | dimensions
  | unsupportedFormat (format : ImageFormat)
  | unknownExtension (ext : String)
  | noExtension
  | window (reason : String)
  deriving DecidableEq

namespace PictureError

def message : PictureError → String
  | file error => error.message
  | dimensions => "The Image's dimensions are either too small or too large"
  | unsupportedFormat format => s!"The image format `{format.name}` is not supported"
  | unknownExtension ext =>
      s!"The file extension `.{Text.quoted ext}` was not recognized as an image format"
  | noExtension => "The image format could not be determined"
  | window reason => reason

end PictureError

def ImageFormat.ofPath (path : String) : Except PictureError ImageFormat :=
  match Path.extension? path with
  | none => .error .noExtension
  | some ext =>
      match ofExtension? ext with
      | none => .error (.unknownExtension ext)
      | some format => .ok format

namespace Encoding

/-- Whether an image can be written: the sides of a gif are numbers of sixteen bits. -/
def fits (image : Image) : Encoding → Bool
  | gif => image.width < 65536 && image.height < 65536
  | _ => true

def keep (image : Image) : Encoding → Image
  | gif => image.reduced
  | _ => image

end Encoding

def ImageFormat.content (image : Image) (format : ImageFormat) :
    Except PictureError FileContent :=
  match format.encoding? with
  | none => .error (.unsupportedFormat format)
  | some encoding =>
      if encoding.fits image then .ok (.image encoding (encoding.keep image))
      else .error .dimensions

namespace Picture

def windowTitle : String := "wireframe"

def imageName : String := "picture"

variable {m : Type → Type} [Monad m] [Host m]

/-- Writes a file; a failure concerns the picture it was meant for. -/
def writeFile (path : String) (content : FileContent) : m (Except PictureError Unit) := do
  match ← Host.writeFile path content with
  | .error e => return .error (.file e)
  | .ok () => return .ok ()

/-- An image that its format cannot hold leaves an empty file behind. -/
def saveAs (image : Image) (path : String) (format : ImageFormat) :
    m (Except PictureError Unit) := do
  match format.content image with
  | .error reason =>
      match ← writeFile path (.text "") with
      | .error e => return .error e
      | .ok () => return .error reason
  | .ok content =>
      match ← writeFile path content with
      | .error e => return .error e
      | .ok () =>
          Host.log (.pictureSaved path)
          return .ok ()

def save (image : Image) (path : String) : m (Except PictureError Unit) :=
  match ImageFormat.ofPath path with
  | .error e => pure (.error e)
  | .ok format => saveAs image.inWords path format

def display (image : Image) : m (Except PictureError Unit) := do
  match ← Host.createWindow windowTitle with
  | .error reason => return .error (.window reason)
  | .ok () =>
      match ← Host.setWindowImage imageName image.inWords with
      | .error reason => return .error (.window reason)
      | .ok () =>
          match ← Host.listen with
          | .error reason => return .error (.window reason)
          | .ok () =>
              Host.awaitLeave
              return .ok ()

end Picture

end Wireframe
