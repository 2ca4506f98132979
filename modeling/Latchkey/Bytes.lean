/-!
# Bytes

Byte strings as lists, and the UTF-8 form of a text.
-/

namespace Latchkey

abbrev Bytes : Type := List UInt8

def utf8 (text : String) : Bytes := text.toUTF8.data.toList

end Latchkey
