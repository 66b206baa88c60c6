import ThriftSchema.Source.Encoding.CharacterGrid

set_option autoImplicit false

/-! # What GBK and GB 18030 add to GB 2312

Signs, compatible ideographs and late additions. The other ideographs of GBK stand in the order of
their code points.
-/

namespace ThriftSchema.CharacterGrid

/-- The characters that GBK puts among those of GB 2312, or in their place. -/
def gbkChanges : CharacterGrid := .ofRows 0x21 0x21 #[
  "���·�����—",
  "ⅰⅱⅲⅳⅴⅵⅶⅷⅸⅹ",
  "",
  "",
  "",
  "���������������������������������������������������������������︵︶︹︺︿﹀︽︾﹁﹂﹃﹄��︻︼︷︸︱�︳︴",
  "",
  "��������������������������ɑ�ńň�ɡ"]

/-- The signs that GBK puts in front of the rows `A8` and `A9` of GB 2312. -/
def gbkSigns : CharacterGrid := .ofRows 0xa8 0x00 #[
  "ˊˋ˙–―‥‵℅℉↖↗↘↙∕∟∣≒≦≧⊿═║╒╓╔╕╖╗╘╙╚╛╜╝╞╟╠╡╢╣╤╥╦╧╨╩╪╫╬╭╮╯╰╱╲╳▁▂▃▄▅▆▇█▉▊▋▌▍▎▏▓▔▕▼▽◢◣◤◥☉⊕〒〝〞",
  "〡〢〣〤〥〦〧〨〩㊣㎎㎏㎜㎝㎞㎡㏄㏎㏑㏒㏕︰￢￤�℡㈱�‐���ー゛゜ヽヾ〆ゝゞ﹉﹊﹋﹌﹍﹎﹏﹐﹑﹒﹔﹕﹖﹗﹙﹚﹛﹜﹝﹞﹟﹠﹡﹢﹣﹤﹥﹦﹨﹩﹪﹫�������������〇"]

/-- The last ideographs of GBK, which are not in the order of their code points. -/
def gbkLast : String := "郎凉秊裏隣兀嗀﨎﨏﨑﨓﨔礼﨟蘒﨡﨣﨤﨧﨨﨩"

/-- The characters that GB 18030 puts into the places that GBK leaves free, in their order; the
other places are for private use. -/
def gb18030Filled : String :=
  "������€����������������������������������������������������������������������������������"
    ++ "���������ǹ������������������������������〾⿰⿱⿲⿳⿴⿵⿶⿷⿸⿹⿺⿻���������������������������������⺁��"
    ++ "�⺄㑳㑇⺈⺋�㖞㘚㘎⺌⺗㥮㤘�㧏㧟㩳㧐��㭎㱮㳠⺧��⺪䁖䅟⺮䌷⺳⺶⺷�䎱䎬⺻䏝䓖䙡䙌�䜣䜩䝼䞍⻊䥇䥺䥽䦂䦃䦅䦆䦟䦛䦷䦶��䲣䲟䲠䲡䱷䲢䴓䴔䴕䴖䴗䴘䴙䶮�"

end ThriftSchema.CharacterGrid
