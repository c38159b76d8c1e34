import Wireframe.Image.Format
import Wireframe.Image.Gif
import Wireframe.Image.Png
import Wireframe.Image.Pixmap

/-!
Images as the bytes of image files.
-/

namespace Wireframe

def Image.encode (image : Image) : Encoding → Bytes
  | .png => image.png
  | .gif => image.gif
  | .bmp => image.bitmap
  | .pnm => image.pixmap

end Wireframe
