/-!
The typographic glyphs of a French text.
-/

set_option autoImplicit false
set_option relaxedAutoImplicit false

namespace CopyEditor.Glyph

abbrev byteOrderMark : Char := '\ufeff'

abbrev noBreakSpace : Char := '\u00a0'

abbrev ellipsis : Char := '…'

abbrev openDouble : Char := '“'

abbrev closeDouble : Char := '”'

abbrev openSingle : Char := '‘'

abbrev closeSingle : Char := '’'

abbrev openGuillemet : Char := '«'

abbrev closeGuillemet : Char := '»'

abbrev straightDouble : Char := '"'

abbrev straightSingle : Char := '\x27'

end CopyEditor.Glyph
