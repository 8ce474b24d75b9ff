/-
The bytes of a text, in UTF-8.
-/

namespace AdaGlue.Text

def bytes (s : String) : List UInt8 :=
  s.toUTF8.data.toList

end AdaGlue.Text
