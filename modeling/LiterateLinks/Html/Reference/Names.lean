/-!
# Named character references

The names that may follow an ampersand, with the code points they stand for.  The names are kept by
their first letter and written without it.  Some end in a semicolon and some do not; under each
letter longer names come first, so that the first name a text starts with is the longest one.
-/

namespace LiterateLinks

namespace Html

namespace Reference

/-- The names that start with `A`. -/
def upperA : List (String × List Nat) :=
  [("pplyFunction;", [0x2061]), ("acute;", [0xc1]), ("breve;", [0x102]), ("grave;", [0xc0]),
    ("ssign;", [0x2254]), ("tilde;", [0xc3]), ("Elig;", [0xc6]), ("acute", [0xc1]),
    ("circ;", [0xc2]), ("grave", [0xc0]), ("lpha;", [0x391]), ("macr;", [0x100]),
    ("ogon;", [0x104]), ("ring;", [0xc5]), ("tilde", [0xc3]), ("Elig", [0xc6]), ("circ", [0xc2]),
    ("opf;", [0x1d538]), ("ring", [0xc5]), ("scr;", [0x1d49c]), ("uml;", [0xc4]), ("MP;", [0x26]),
    ("cy;", [0x410]), ("fr;", [0x1d504]), ("nd;", [0x2a53]), ("uml", [0xc4]), ("MP", [0x26])]

/-- The names that start with `B`. -/
def upperB : List (String × List Nat) :=
  [("ernoullis;", [0x212c]), ("ackslash;", [0x2216]), ("ecause;", [0x2235]), ("arwed;", [0x2306]),
    ("umpeq;", [0x224e]), ("reve;", [0x2d8]), ("arv;", [0x2ae7]), ("eta;", [0x392]),
    ("opf;", [0x1d539]), ("scr;", [0x212c]), ("cy;", [0x411]), ("fr;", [0x1d505])]

/-- The names that start with `C`. -/
def upperC : List (String × List Nat) :=
  [("ounterClockwiseContourIntegral;", [0x2233]), ("lockwiseContourIntegral;", [0x2232]),
    ("loseCurlyDoubleQuote;", [0x201d]), ("apitalDifferentialD;", [0x2145]),
    ("loseCurlyQuote;", [0x2019]), ("ontourIntegral;", [0x222e]), ("ircleMinus;", [0x2296]),
    ("ircleTimes;", [0x2297]), ("irclePlus;", [0x2295]), ("enterDot;", [0xb7]),
    ("ircleDot;", [0x2299]), ("ongruent;", [0x2261]), ("oproduct;", [0x2210]),
    ("ayleys;", [0x212d]), ("conint;", [0x2230]), ("edilla;", [0xb8]), ("acute;", [0x106]),
    ("caron;", [0x10c]), ("cedil;", [0xc7]), ("olone;", [0x2a74]), ("onint;", [0x222f]),
    ("upCap;", [0x224d]), ("cedil", [0xc7]), ("circ;", [0x108]), ("olon;", [0x2237]),
    ("ross;", [0x2a2f]), ("Hcy;", [0x427]), ("OPY;", [0xa9]), ("dot;", [0x10a]), ("opf;", [0x2102]),
    ("scr;", [0x1d49e]), ("OPY", [0xa9]), ("ap;", [0x22d2]), ("fr;", [0x212d]), ("hi;", [0x3a7]),
    ("up;", [0x22d3])]

/-- The names that start with `D`. -/
def upperD : List (String × List Nat) :=
  [("oubleLongLeftRightArrow;", [0x27fa]), ("iacriticalDoubleAcute;", [0x2dd]),
    ("oubleContourIntegral;", [0x222f]), ("oubleLeftRightArrow;", [0x21d4]),
    ("oubleLongRightArrow;", [0x27f9]), ("oubleLongLeftArrow;", [0x27f8]),
    ("ownLeftRightVector;", [0x2950]), ("ownRightTeeVector;", [0x295f]),
    ("ownRightVectorBar;", [0x2957]), ("oubleUpDownArrow;", [0x21d5]),
    ("oubleVerticalBar;", [0x2225]), ("ownLeftTeeVector;", [0x295e]),
    ("ownLeftVectorBar;", [0x2956]), ("iacriticalAcute;", [0xb4]), ("iacriticalGrave;", [0x60]),
    ("iacriticalTilde;", [0x2dc]), ("oubleRightArrow;", [0x21d2]), ("ownArrowUpArrow;", [0x21f5]),
    ("oubleDownArrow;", [0x21d3]), ("oubleLeftArrow;", [0x21d0]), ("ownRightVector;", [0x21c1]),
    ("iacriticalDot;", [0x2d9]), ("oubleRightTee;", [0x22a8]), ("ownLeftVector;", [0x21bd]),
    ("ifferentialD;", [0x2146]), ("oubleLeftTee;", [0x2ae4]), ("oubleUpArrow;", [0x21d1]),
    ("ownArrowBar;", [0x2913]), ("ownTeeArrow;", [0x21a7]), ("oubleDot;", [0xa8]),
    ("ownArrow;", [0x2193]), ("ownBreve;", [0x311]), ("ownarrow;", [0x21d3]),
    ("Dotrahd;", [0x2911]), ("otEqual;", [0x2250]), ("iamond;", [0x22c4]), ("ownTee;", [0x22a4]),
    ("agger;", [0x2021]), ("caron;", [0x10e]), ("otDot;", [0x20dc]), ("strok;", [0x110]),
    ("ashv;", [0x2ae4]), ("elta;", [0x394]), ("Jcy;", [0x402]), ("Scy;", [0x405]),
    ("Zcy;", [0x40f]), ("arr;", [0x21a1]), ("opf;", [0x1d53b]), ("scr;", [0x1d49f]),
    ("cy;", [0x414]), ("el;", [0x2207]), ("fr;", [0x1d507]), ("ot;", [0xa8]), ("D;", [0x2145])]

/-- The names that start with `E`. -/
def upperE : List (String × List Nat) :=
  [("mptyVerySmallSquare;", [0x25ab]), ("mptySmallSquare;", [0x25fb]), ("xponentialE;", [0x2147]),
    ("quilibrium;", [0x21cc]), ("qualTilde;", [0x2242]), ("lement;", [0x2208]),
    ("psilon;", [0x395]), ("acute;", [0xc9]), ("caron;", [0x11a]), ("grave;", [0xc8]),
    ("xists;", [0x2203]), ("acute", [0xc9]), ("circ;", [0xca]), ("grave", [0xc8]),
    ("macr;", [0x112]), ("ogon;", [0x118]), ("qual;", [0x2a75]), ("circ", [0xca]),
    ("dot;", [0x116]), ("opf;", [0x1d53c]), ("scr;", [0x2130]), ("sim;", [0x2a73]),
    ("uml;", [0xcb]), ("NG;", [0x14a]), ("TH;", [0xd0]), ("cy;", [0x42d]), ("fr;", [0x1d508]),
    ("ta;", [0x397]), ("uml", [0xcb]), ("TH", [0xd0])]

/-- The names that start with `F`. -/
def upperF : List (String × List Nat) :=
  [("illedVerySmallSquare;", [0x25aa]), ("illedSmallSquare;", [0x25fc]), ("ouriertrf;", [0x2131]),
    ("orAll;", [0x2200]), ("opf;", [0x1d53d]), ("scr;", [0x2131]), ("cy;", [0x424]),
    ("fr;", [0x1d509])]

/-- The names that start with `G`. -/
def upperG : List (String × List Nat) :=
  [("reaterSlantEqual;", [0x2a7e]), ("reaterEqualLess;", [0x22db]), ("reaterFullEqual;", [0x2267]),
    ("reaterGreater;", [0x2aa2]), ("reaterEqual;", [0x2265]), ("reaterTilde;", [0x2273]),
    ("reaterLess;", [0x2277]), ("ammad;", [0x3dc]), ("breve;", [0x11e]), ("cedil;", [0x122]),
    ("amma;", [0x393]), ("circ;", [0x11c]), ("Jcy;", [0x403]), ("dot;", [0x120]),
    ("opf;", [0x1d53e]), ("scr;", [0x1d4a2]), ("cy;", [0x413]), ("fr;", [0x1d50a]), ("T;", [0x3e]),
    ("g;", [0x22d9]), ("t;", [0x226b]), ("T", [0x3e])]

/-- The names that start with `H`. -/
def upperH : List (String × List Nat) :=
  [("orizontalLine;", [0x2500]), ("ilbertSpace;", [0x210b]), ("umpDownHump;", [0x224e]),
    ("umpEqual;", [0x224f]), ("ARDcy;", [0x42a]), ("strok;", [0x126]), ("acek;", [0x2c7]),
    ("circ;", [0x124]), ("opf;", [0x210d]), ("scr;", [0x210b]), ("at;", [0x5e]), ("fr;", [0x210c])]

/-- The names that start with `I`. -/
def upperI : List (String × List Nat) :=
  [("nvisibleComma;", [0x2063]), ("nvisibleTimes;", [0x2062]), ("ntersection;", [0x22c2]),
    ("maginaryI;", [0x2148]), ("ntegral;", [0x222b]), ("mplies;", [0x21d2]), ("acute;", [0xcd]),
    ("grave;", [0xcc]), ("tilde;", [0x128]), ("Jlig;", [0x132]), ("acute", [0xcd]),
    ("circ;", [0xce]), ("grave", [0xcc]), ("macr;", [0x12a]), ("ogon;", [0x12e]),
    ("ukcy;", [0x406]), ("Ecy;", [0x415]), ("Ocy;", [0x401]), ("circ", [0xce]), ("dot;", [0x130]),
    ("opf;", [0x1d540]), ("ota;", [0x399]), ("scr;", [0x2110]), ("uml;", [0xcf]), ("cy;", [0x418]),
    ("fr;", [0x2111]), ("nt;", [0x222c]), ("uml", [0xcf]), ("m;", [0x2111])]

/-- The names that start with `J`. -/
def upperJ : List (String × List Nat) :=
  [("sercy;", [0x408]), ("circ;", [0x134]), ("ukcy;", [0x404]), ("opf;", [0x1d541]),
    ("scr;", [0x1d4a5]), ("cy;", [0x419]), ("fr;", [0x1d50d])]

/-- The names that start with `K`. -/
def upperK : List (String × List Nat) :=
  [("cedil;", [0x136]), ("appa;", [0x39a]), ("Hcy;", [0x425]), ("Jcy;", [0x40c]),
    ("opf;", [0x1d542]), ("scr;", [0x1d4a6]), ("cy;", [0x41a]), ("fr;", [0x1d50e])]

/-- The names that start with `L`. -/
def upperL : List (String × List Nat) :=
  [("eftArrowRightArrow;", [0x21c6]), ("ongLeftRightArrow;", [0x27f7]),
    ("ongleftrightarrow;", [0x27fa]), ("eftDoubleBracket;", [0x27e6]),
    ("eftDownTeeVector;", [0x2961]), ("eftDownVectorBar;", [0x2959]),
    ("eftTriangleEqual;", [0x22b4]), ("eftAngleBracket;", [0x27e8]), ("eftUpDownVector;", [0x2951]),
    ("essEqualGreater;", [0x22da]), ("eftRightVector;", [0x294e]), ("eftTriangleBar;", [0x29cf]),
    ("eftUpTeeVector;", [0x2960]), ("eftUpVectorBar;", [0x2958]), ("owerRightArrow;", [0x2198]),
    ("eftDownVector;", [0x21c3]), ("eftRightArrow;", [0x2194]), ("eftrightarrow;", [0x21d4]),
    ("essSlantEqual;", [0x2a7d]), ("ongRightArrow;", [0x27f6]), ("ongrightarrow;", [0x27f9]),
    ("owerLeftArrow;", [0x2199]), ("eftTeeVector;", [0x295a]), ("eftVectorBar;", [0x2952]),
    ("essFullEqual;", [0x2266]), ("ongLeftArrow;", [0x27f5]), ("ongleftarrow;", [0x27f8]),
    ("eftArrowBar;", [0x21e4]), ("eftTeeArrow;", [0x21a4]), ("eftTriangle;", [0x22b2]),
    ("eftUpVector;", [0x21bf]), ("eftCeiling;", [0x2308]), ("essGreater;", [0x2276]),
    ("aplacetrf;", [0x2112]), ("eftVector;", [0x21bc]), ("leftarrow;", [0x21da]),
    ("eftArrow;", [0x2190]), ("eftFloor;", [0x230a]), ("eftarrow;", [0x21d0]),
    ("essTilde;", [0x2272]), ("essLess;", [0x2aa1]), ("eftTee;", [0x22a3]), ("acute;", [0x139]),
    ("ambda;", [0x39b]), ("caron;", [0x13d]), ("cedil;", [0x13b]), ("midot;", [0x13f]),
    ("strok;", [0x141]), ("Jcy;", [0x409]), ("ang;", [0x27ea]), ("arr;", [0x219e]),
    ("opf;", [0x1d543]), ("scr;", [0x2112]), ("cy;", [0x41b]), ("fr;", [0x1d50f]),
    ("sh;", [0x21b0]), ("T;", [0x3c]), ("l;", [0x22d8]), ("t;", [0x226a]), ("T", [0x3c])]

/-- The names that start with `M`. -/
def upperM : List (String × List Nat) :=
  [("ediumSpace;", [0x205f]), ("ellintrf;", [0x2133]), ("inusPlus;", [0x2213]), ("opf;", [0x1d544]),
    ("scr;", [0x2133]), ("ap;", [0x2905]), ("cy;", [0x41c]), ("fr;", [0x1d510]), ("u;", [0x39c])]

/-- The names that start with `N`. -/
def upperN : List (String × List Nat) :=
  [("otNestedGreaterGreater;", [0x2aa2, 0x338]), ("otSquareSupersetEqual;", [0x22e3]),
    ("egativeVeryThinSpace;", [0x200b]), ("otPrecedesSlantEqual;", [0x22e0]),
    ("otRightTriangleEqual;", [0x22ed]), ("otSucceedsSlantEqual;", [0x22e1]),
    ("estedGreaterGreater;", [0x226b]), ("otDoubleVerticalBar;", [0x2226]),
    ("otGreaterSlantEqual;", [0x2a7e, 0x338]), ("otLeftTriangleEqual;", [0x22ec]),
    ("otSquareSubsetEqual;", [0x22e2]), ("egativeMediumSpace;", [0x200b]),
    ("otGreaterFullEqual;", [0x2267, 0x338]), ("otRightTriangleBar;", [0x29d0, 0x338]),
    ("egativeThickSpace;", [0x200b]), ("otLeftTriangleBar;", [0x29cf, 0x338]),
    ("egativeThinSpace;", [0x200b]), ("otGreaterGreater;", [0x226b, 0x338]),
    ("otLessSlantEqual;", [0x2a7d, 0x338]), ("otNestedLessLess;", [0x2aa1, 0x338]),
    ("otReverseElement;", [0x220c]), ("otSquareSuperset;", [0x2290, 0x338]),
    ("otTildeFullEqual;", [0x2247]), ("onBreakingSpace;", [0xa0]),
    ("otPrecedesEqual;", [0x2aaf, 0x338]), ("otRightTriangle;", [0x22eb]),
    ("otSucceedsEqual;", [0x2ab0, 0x338]), ("otSucceedsTilde;", [0x227f, 0x338]),
    ("otSupersetEqual;", [0x2289]), ("otGreaterEqual;", [0x2271]), ("otGreaterTilde;", [0x2275]),
    ("otHumpDownHump;", [0x224e, 0x338]), ("otLeftTriangle;", [0x22ea]),
    ("otSquareSubset;", [0x228f, 0x338]), ("estedLessLess;", [0x226a]),
    ("otGreaterLess;", [0x2279]), ("otLessGreater;", [0x2278]), ("otSubsetEqual;", [0x2288]),
    ("otVerticalBar;", [0x2224]), ("otEqualTilde;", [0x2242, 0x338]), ("otTildeEqual;", [0x2244]),
    ("otTildeTilde;", [0x2249]), ("otCongruent;", [0x2262]), ("otHumpEqual;", [0x224f, 0x338]),
    ("otLessEqual;", [0x2270]), ("otLessTilde;", [0x2274]), ("otLessLess;", [0x226a, 0x338]),
    ("otPrecedes;", [0x2280]), ("otSucceeds;", [0x2281]), ("otSuperset;", [0x2283, 0x20d2]),
    ("otElement;", [0x2209]), ("otGreater;", [0x226f]), ("otCupCap;", [0x226d]),
    ("otExists;", [0x2204]), ("otSubset;", [0x2282, 0x20d2]), ("otEqual;", [0x2260]),
    ("otTilde;", [0x2241]), ("ewLine;", [0xa]), ("oBreak;", [0x2060]), ("otLess;", [0x226e]),
    ("acute;", [0x143]), ("caron;", [0x147]), ("cedil;", [0x145]), ("tilde;", [0xd1]),
    ("tilde", [0xd1]), ("Jcy;", [0x40a]), ("opf;", [0x2115]), ("scr;", [0x1d4a9]), ("cy;", [0x41d]),
    ("fr;", [0x1d511]), ("ot;", [0x2aec]), ("u;", [0x39d])]

/-- The names that start with `O`. -/
def upperO : List (String × List Nat) :=
  [("penCurlyDoubleQuote;", [0x201c]), ("verParenthesis;", [0x23dc]), ("penCurlyQuote;", [0x2018]),
    ("verBracket;", [0x23b4]), ("verBrace;", [0x23de]), ("micron;", [0x39f]), ("verBar;", [0x203e]),
    ("acute;", [0xd3]), ("dblac;", [0x150]), ("grave;", [0xd2]), ("slash;", [0xd8]),
    ("tilde;", [0xd5]), ("times;", [0x2a37]), ("Elig;", [0x152]), ("acute", [0xd3]),
    ("circ;", [0xd4]), ("grave", [0xd2]), ("macr;", [0x14c]), ("mega;", [0x3a9]), ("slash", [0xd8]),
    ("tilde", [0xd5]), ("circ", [0xd4]), ("opf;", [0x1d546]), ("scr;", [0x1d4aa]), ("uml;", [0xd6]),
    ("cy;", [0x41e]), ("fr;", [0x1d512]), ("uml", [0xd6]), ("r;", [0x2a54])]

/-- The names that start with `P`. -/
def upperP : List (String × List Nat) :=
  [("recedesSlantEqual;", [0x227c]), ("oincareplane;", [0x210c]), ("recedesEqual;", [0x2aaf]),
    ("recedesTilde;", [0x227e]), ("roportional;", [0x221d]), ("roportion;", [0x2237]),
    ("lusMinus;", [0xb1]), ("artialD;", [0x2202]), ("recedes;", [0x227a]), ("roduct;", [0x220f]),
    ("rime;", [0x2033]), ("opf;", [0x2119]), ("scr;", [0x1d4ab]), ("cy;", [0x41f]),
    ("fr;", [0x1d513]), ("hi;", [0x3a6]), ("si;", [0x3a8]), ("i;", [0x3a0]), ("r;", [0x2abb])]

/-- The names that start with `Q`. -/
def upperQ : List (String × List Nat) :=
  [("UOT;", [0x22]), ("opf;", [0x211a]), ("scr;", [0x1d4ac]), ("UOT", [0x22]), ("fr;", [0x1d514])]

/-- The names that start with `R`. -/
def upperR : List (String × List Nat) :=
  [("everseUpEquilibrium;", [0x296f]), ("ightArrowLeftArrow;", [0x21c4]),
    ("everseEquilibrium;", [0x21cb]), ("ightDoubleBracket;", [0x27e7]),
    ("ightDownTeeVector;", [0x295d]), ("ightDownVectorBar;", [0x2955]),
    ("ightTriangleEqual;", [0x22b5]), ("ightAngleBracket;", [0x27e9]),
    ("ightUpDownVector;", [0x294f]), ("ightTriangleBar;", [0x29d0]), ("ightUpTeeVector;", [0x295c]),
    ("ightUpVectorBar;", [0x2954]), ("ightDownVector;", [0x21c2]), ("everseElement;", [0x220b]),
    ("ightTeeVector;", [0x295b]), ("ightVectorBar;", [0x2953]), ("ightArrowBar;", [0x21e5]),
    ("ightTeeArrow;", [0x21a6]), ("ightTriangle;", [0x22b3]), ("ightUpVector;", [0x21be]),
    ("ightCeiling;", [0x2309]), ("oundImplies;", [0x2970]), ("ightVector;", [0x21c0]),
    ("rightarrow;", [0x21db]), ("uleDelayed;", [0x29f4]), ("ightArrow;", [0x2192]),
    ("ightFloor;", [0x230b]), ("ightarrow;", [0x21d2]), ("ightTee;", [0x22a2]), ("acute;", [0x154]),
    ("arrtl;", [0x2916]), ("caron;", [0x158]), ("cedil;", [0x156]), ("Barr;", [0x2910]),
    ("ang;", [0x27eb]), ("arr;", [0x21a0]), ("opf;", [0x211d]), ("scr;", [0x211b]), ("EG;", [0xae]),
    ("cy;", [0x420]), ("fr;", [0x211c]), ("ho;", [0x3a1]), ("sh;", [0x21b1]), ("EG", [0xae]),
    ("e;", [0x211c])]

/-- The names that start with `S`. -/
def upperS : List (String × List Nat) :=
  [("quareSupersetEqual;", [0x2292]), ("quareIntersection;", [0x2293]),
    ("ucceedsSlantEqual;", [0x227d]), ("quareSubsetEqual;", [0x2291]),
    ("hortRightArrow;", [0x2192]), ("hortDownArrow;", [0x2193]), ("hortLeftArrow;", [0x2190]),
    ("quareSuperset;", [0x2290]), ("ucceedsEqual;", [0x2ab0]), ("ucceedsTilde;", [0x227f]),
    ("upersetEqual;", [0x2287]), ("hortUpArrow;", [0x2191]), ("quareSubset;", [0x228f]),
    ("mallCircle;", [0x2218]), ("quareUnion;", [0x2294]), ("ubsetEqual;", [0x2286]),
    ("ucceeds;", [0x227b]), ("uchThat;", [0x220b]), ("uperset;", [0x2283]), ("HCHcy;", [0x429]),
    ("OFTcy;", [0x42c]), ("acute;", [0x15a]), ("caron;", [0x160]), ("cedil;", [0x15e]),
    ("quare;", [0x25a1]), ("ubset;", [0x22d0]), ("upset;", [0x22d1]), ("circ;", [0x15c]),
    ("igma;", [0x3a3]), ("Hcy;", [0x428]), ("opf;", [0x1d54a]), ("qrt;", [0x221a]),
    ("scr;", [0x1d4ae]), ("tar;", [0x22c6]), ("cy;", [0x421]), ("fr;", [0x1d516]),
    ("ub;", [0x22d0]), ("um;", [0x2211]), ("up;", [0x22d1]), ("c;", [0x2abc])]

/-- The names that start with `T`. -/
def upperT : List (String × List Nat) :=
  [("ildeFullEqual;", [0x2245]), ("hickSpace;", [0x205f, 0x200a]), ("ildeEqual;", [0x2243]),
    ("ildeTilde;", [0x2248]), ("herefore;", [0x2234]), ("hinSpace;", [0x2009]),
    ("ripleDot;", [0x20db]), ("caron;", [0x164]), ("cedil;", [0x162]), ("strok;", [0x166]),
    ("HORN;", [0xde]), ("RADE;", [0x2122]), ("SHcy;", [0x40b]), ("heta;", [0x398]),
    ("ilde;", [0x223c]), ("HORN", [0xde]), ("Scy;", [0x426]), ("opf;", [0x1d54b]),
    ("scr;", [0x1d4af]), ("ab;", [0x9]), ("au;", [0x3a4]), ("cy;", [0x422]), ("fr;", [0x1d517])]

/-- The names that start with `U`. -/
def upperU : List (String × List Nat) :=
  [("nderParenthesis;", [0x23dd]), ("pArrowDownArrow;", [0x21c5]), ("pperRightArrow;", [0x2197]),
    ("pperLeftArrow;", [0x2196]), ("pEquilibrium;", [0x296e]), ("nderBracket;", [0x23b5]),
    ("pDownArrow;", [0x2195]), ("pdownarrow;", [0x21d5]), ("nderBrace;", [0x23df]),
    ("pArrowBar;", [0x2912]), ("pTeeArrow;", [0x21a5]), ("nionPlus;", [0x228e]),
    ("arrocir;", [0x2949]), ("nderBar;", [0x5f]), ("pArrow;", [0x2191]), ("parrow;", [0x21d1]),
    ("psilon;", [0x3a5]), ("acute;", [0xda]), ("breve;", [0x16c]), ("dblac;", [0x170]),
    ("grave;", [0xd9]), ("tilde;", [0x168]), ("acute", [0xda]), ("brcy;", [0x40e]),
    ("circ;", [0xdb]), ("grave", [0xd9]), ("macr;", [0x16a]), ("nion;", [0x22c3]),
    ("ogon;", [0x172]), ("pTee;", [0x22a5]), ("ring;", [0x16e]), ("arr;", [0x219f]),
    ("circ", [0xdb]), ("opf;", [0x1d54c]), ("psi;", [0x3d2]), ("scr;", [0x1d4b0]), ("uml;", [0xdc]),
    ("cy;", [0x423]), ("fr;", [0x1d518]), ("uml", [0xdc])]

/-- The names that start with `V`. -/
def upperV : List (String × List Nat) :=
  [("erticalSeparator;", [0x2758]), ("erticalTilde;", [0x2240]), ("eryThinSpace;", [0x200a]),
    ("erticalLine;", [0x7c]), ("erticalBar;", [0x2223]), ("dashl;", [0x2ae6]), ("erbar;", [0x2016]),
    ("vdash;", [0x22aa]), ("Dash;", [0x22ab]), ("dash;", [0x22a9]), ("bar;", [0x2aeb]),
    ("ert;", [0x2016]), ("opf;", [0x1d54d]), ("scr;", [0x1d4b1]), ("cy;", [0x412]),
    ("ee;", [0x22c1]), ("fr;", [0x1d519])]

/-- The names that start with `W`. -/
def upperW : List (String × List Nat) :=
  [("circ;", [0x174]), ("edge;", [0x22c0]), ("opf;", [0x1d54e]), ("scr;", [0x1d4b2]),
    ("fr;", [0x1d51a])]

/-- The names that start with `X`. -/
def upperX : List (String × List Nat) :=
  [("opf;", [0x1d54f]), ("scr;", [0x1d4b3]), ("fr;", [0x1d51b]), ("i;", [0x39e])]

/-- The names that start with `Y`. -/
def upperY : List (String × List Nat) :=
  [("acute;", [0xdd]), ("acute", [0xdd]), ("circ;", [0x176]), ("Acy;", [0x42f]), ("Icy;", [0x407]),
    ("Ucy;", [0x42e]), ("opf;", [0x1d550]), ("scr;", [0x1d4b4]), ("uml;", [0x178]),
    ("cy;", [0x42b]), ("fr;", [0x1d51c])]

/-- The names that start with `Z`. -/
def upperZ : List (String × List Nat) :=
  [("eroWidthSpace;", [0x200b]), ("acute;", [0x179]), ("caron;", [0x17d]), ("Hcy;", [0x416]),
    ("dot;", [0x17b]), ("eta;", [0x396]), ("opf;", [0x2124]), ("scr;", [0x1d4b5]), ("cy;", [0x417]),
    ("fr;", [0x2128])]

/-- The names that start with `a`. -/
def lowerA : List (String × List Nat) :=
  [("ndslope;", [0x2a58]), ("ngmsdaa;", [0x29a8]), ("ngmsdab;", [0x29a9]), ("ngmsdac;", [0x29aa]),
    ("ngmsdad;", [0x29ab]), ("ngmsdae;", [0x29ac]), ("ngmsdaf;", [0x29ad]), ("ngmsdag;", [0x29ae]),
    ("ngmsdah;", [0x29af]), ("ngrtvbd;", [0x299d]), ("pproxeq;", [0x224a]), ("wconint;", [0x2233]),
    ("lefsym;", [0x2135]), ("ngrtvb;", [0x22be]), ("ngzarr;", [0x237c]), ("sympeq;", [0x224d]),
    ("acute;", [0xe1]), ("breve;", [0x103]), ("grave;", [0xe0]), ("ndand;", [0x2a55]),
    ("ngmsd;", [0x2221]), ("ngsph;", [0x2222]), ("pacir;", [0x2a6f]), ("pprox;", [0x2248]),
    ("tilde;", [0xe3]), ("acute", [0xe1]), ("circ;", [0xe2]), ("cute;", [0xb4]), ("elig;", [0xe6]),
    ("grave", [0xe0]), ("leph;", [0x2135]), ("lpha;", [0x3b1]), ("macr;", [0x101]),
    ("malg;", [0x2a3f]), ("ngle;", [0x2220]), ("ngrt;", [0x221f]), ("ngst;", [0xc5]),
    ("ogon;", [0x105]), ("ring;", [0xe5]), ("symp;", [0x2248]), ("tilde", [0xe3]),
    ("wint;", [0x2a11]), ("circ", [0xe2]), ("cute", [0xb4]), ("elig", [0xe6]), ("ndd;", [0x2a5c]),
    ("ndv;", [0x2a5a]), ("nge;", [0x29a4]), ("opf;", [0x1d552]), ("pid;", [0x224b]),
    ("pos;", [0x27]), ("ring", [0xe5]), ("scr;", [0x1d4b6]), ("uml;", [0xe4]),
    ("cE;", [0x223e, 0x333]), ("cd;", [0x223f]), ("cy;", [0x430]), ("fr;", [0x1d51e]),
    ("mp;", [0x26]), ("nd;", [0x2227]), ("ng;", [0x2220]), ("pE;", [0x2a70]), ("pe;", [0x224a]),
    ("st;", [0x2a]), ("uml", [0xe4]), ("c;", [0x223e]), ("f;", [0x2061]), ("mp", [0x26]),
    ("p;", [0x2248])]

/-- The names that start with `b`. -/
def lowerB : List (String × List Nat) :=
  [("lacktriangleright;", [0x25b8]), ("lacktriangledown;", [0x25be]),
    ("lacktriangleleft;", [0x25c2]), ("igtriangledown;", [0x25bd]), ("igtriangleup;", [0x25b3]),
    ("lacktriangle;", [0x25b4]), ("lacklozenge;", [0x29eb]), ("ackepsilon;", [0x3f6]),
    ("lacksquare;", [0x25aa]), ("ackprime;", [0x2035]), ("acksimeq;", [0x22cd]),
    ("igotimes;", [0x2a02]), ("ackcong;", [0x224c]), ("arwedge;", [0x2305]), ("brktbrk;", [0x23b6]),
    ("igoplus;", [0x2a01]), ("igsqcup;", [0x2a06]), ("iguplus;", [0x2a04]), ("igwedge;", [0x22c0]),
    ("oxminus;", [0x229f]), ("oxtimes;", [0x22a0]), ("solhsub;", [0x27c8]), ("acksim;", [0x223d]),
    ("ecause;", [0x2235]), ("emptyv;", [0x29b0]), ("etween;", [0x226c]), ("igcirc;", [0x25ef]),
    ("igodot;", [0x2a00]), ("igstar;", [0x2605]), ("nequiv;", [0x2261, 0x20e5]),
    ("oxplus;", [0x229e]), ("arvee;", [0x22bd]), ("arwed;", [0x2305]), ("ecaus;", [0x2235]),
    ("ernou;", [0x212c]), ("igcap;", [0x22c2]), ("igcup;", [0x22c3]), ("igvee;", [0x22c1]),
    ("karow;", [0x290d]), ("ottom;", [0x22a5]), ("owtie;", [0x22c8]), ("oxbox;", [0x29c9]),
    ("prime;", [0x2035]), ("rvbar;", [0xa6]), ("ullet;", [0x2022]), ("umpeq;", [0x224f]),
    ("cong;", [0x224c]), ("dquo;", [0x201e]), ("epsi;", [0x3f6]), ("lank;", [0x2423]),
    ("lk12;", [0x2592]), ("lk14;", [0x2591]), ("lk34;", [0x2593]), ("lock;", [0x2588]),
    ("oxDL;", [0x2557]), ("oxDR;", [0x2554]), ("oxDl;", [0x2556]), ("oxDr;", [0x2553]),
    ("oxHD;", [0x2566]), ("oxHU;", [0x2569]), ("oxHd;", [0x2564]), ("oxHu;", [0x2567]),
    ("oxUL;", [0x255d]), ("oxUR;", [0x255a]), ("oxUl;", [0x255c]), ("oxUr;", [0x2559]),
    ("oxVH;", [0x256c]), ("oxVL;", [0x2563]), ("oxVR;", [0x2560]), ("oxVh;", [0x256b]),
    ("oxVl;", [0x2562]), ("oxVr;", [0x255f]), ("oxdL;", [0x2555]), ("oxdR;", [0x2552]),
    ("oxdl;", [0x2510]), ("oxdr;", [0x250c]), ("oxhD;", [0x2565]), ("oxhU;", [0x2568]),
    ("oxhd;", [0x252c]), ("oxhu;", [0x2534]), ("oxuL;", [0x255b]), ("oxuR;", [0x2558]),
    ("oxul;", [0x2518]), ("oxur;", [0x2514]), ("oxvH;", [0x256a]), ("oxvL;", [0x2561]),
    ("oxvR;", [0x255e]), ("oxvh;", [0x253c]), ("oxvl;", [0x2524]), ("oxvr;", [0x251c]),
    ("reve;", [0x2d8]), ("rvbar", [0xa6]), ("semi;", [0x204f]), ("sime;", [0x22cd]),
    ("solb;", [0x29c5]), ("umpE;", [0x2aae]), ("umpe;", [0x224f]), ("Not;", [0x2aed]),
    ("brk;", [0x23b5]), ("eta;", [0x3b2]), ("eth;", [0x2136]), ("not;", [0x2310]),
    ("opf;", [0x1d553]), ("oxH;", [0x2550]), ("oxV;", [0x2551]), ("oxh;", [0x2500]),
    ("oxv;", [0x2502]), ("scr;", [0x1d4b7]), ("sim;", [0x223d]), ("sol;", [0x5c]),
    ("ull;", [0x2022]), ("ump;", [0x224e]), ("cy;", [0x431]), ("fr;", [0x1d51f]),
    ("ne;", [0x3d, 0x20e5]), ("ot;", [0x22a5])]

/-- The names that start with `c`. -/
def lowerC : List (String × List Nat) :=
  [("irclearrowright;", [0x21bb]), ("irclearrowleft;", [0x21ba]), ("urvearrowright;", [0x21b7]),
    ("urvearrowleft;", [0x21b6]), ("ircledcirc;", [0x229a]), ("ircleddash;", [0x229d]),
    ("urlyeqprec;", [0x22de]), ("urlyeqsucc;", [0x22df]), ("ircledast;", [0x229b]),
    ("omplement;", [0x2201]), ("urlywedge;", [0x22cf]), ("enterdot;", [0xb7]),
    ("heckmark;", [0x2713]), ("omplexes;", [0x2102]), ("apbrcup;", [0x2a49]), ("ircledR;", [0xae]),
    ("ircledS;", [0x24c8]), ("irfnint;", [0x2a10]), ("lubsuit;", [0x2663]), ("upbrcap;", [0x2a48]),
    ("urlyvee;", [0x22ce]), ("wconint;", [0x2232]), ("cupssm;", [0x2a50]), ("emptyv;", [0x29b2]),
    ("irscir;", [0x29c2]), ("oloneq;", [0x2254]), ("ongdot;", [0x2a6d]), ("udarrl;", [0x2938]),
    ("udarrr;", [0x2935]), ("ularrp;", [0x293d]), ("urarrm;", [0x293c]), ("acute;", [0x107]),
    ("apand;", [0x2a44]), ("apcap;", [0x2a4b]), ("apcup;", [0x2a47]), ("apdot;", [0x2a40]),
    ("caron;", [0x10d]), ("cedil;", [0xe7]), ("irceq;", [0x2257]), ("irmid;", [0x2aef]),
    ("olone;", [0x2254]), ("ommat;", [0x40]), ("ompfn;", [0x2218]), ("onint;", [0x222e]),
    ("oprod;", [0x2210]), ("opysr;", [0x2117]), ("ularr;", [0x21b6]), ("upcap;", [0x2a46]),
    ("upcup;", [0x2a4a]), ("updot;", [0x228d]), ("urarr;", [0x21b7]), ("urren;", [0xa4]),
    ("ylcty;", [0x232d]), ("aret;", [0x2041]), ("aron;", [0x2c7]), ("caps;", [0x2a4d]),
    ("cedil", [0xe7]), ("circ;", [0x109]), ("cups;", [0x2a4c]), ("edil;", [0xb8]),
    ("heck;", [0x2713]), ("lubs;", [0x2663]), ("olon;", [0x3a]), ("omma;", [0x2c]),
    ("rarr;", [0x21b5]), ("ross;", [0x2717]), ("sube;", [0x2ad1]), ("supe;", [0x2ad2]),
    ("tdot;", [0x22ef]), ("uepr;", [0x22de]), ("uesc;", [0x22df]), ("upor;", [0x2a45]),
    ("urren", [0xa4]), ("uvee;", [0x22ce]), ("uwed;", [0x22cf]), ("wint;", [0x2231]),
    ("aps;", [0x2229, 0xfe00]), ("dot;", [0x10b]), ("edil", [0xb8]), ("ent;", [0xa2]),
    ("hcy;", [0x447]), ("irE;", [0x29c3]), ("irc;", [0x2c6]), ("ire;", [0x2257]),
    ("omp;", [0x2201]), ("ong;", [0x2245]), ("opf;", [0x1d554]), ("opy;", [0xa9]),
    ("scr;", [0x1d4b8]), ("sub;", [0x2acf]), ("sup;", [0x2ad0]), ("ups;", [0x222a, 0xfe00]),
    ("ap;", [0x2229]), ("ent", [0xa2]), ("fr;", [0x1d520]), ("hi;", [0x3c7]), ("ir;", [0x25cb]),
    ("opy", [0xa9]), ("up;", [0x222a])]

/-- The names that start with `d`. -/
def lowerD : List (String × List Nat) :=
  [("ownharpoonright;", [0x21c2]), ("ownharpoonleft;", [0x21c3]), ("oublebarwedge;", [0x2306]),
    ("owndownarrows;", [0x21ca]), ("ivideontimes;", [0x22c7]), ("iamondsuit;", [0x2666]),
    ("otsquare;", [0x22a1]), ("ownarrow;", [0x2193]), ("oteqdot;", [0x2251]),
    ("otminus;", [0x2238]), ("rbkarow;", [0x2910]), ("zigrarr;", [0x27ff]), ("bkarow;", [0x290f]),
    ("dagger;", [0x2021]), ("dotseq;", [0x2a77]), ("emptyv;", [0x29b1]), ("iamond;", [0x22c4]),
    ("igamma;", [0x3dd]), ("otplus;", [0x2214]), ("wangle;", [0x29a6]), ("agger;", [0x2020]),
    ("aleth;", [0x2138]), ("caron;", [0x10f]), ("fisht;", [0x297f]), ("ivide;", [0xf7]),
    ("ivonx;", [0x22c7]), ("lcorn;", [0x231e]), ("lcrop;", [0x230d]), ("ollar;", [0x24]),
    ("rcorn;", [0x231f]), ("rcrop;", [0x230c]), ("strok;", [0x111]), ("ashv;", [0x22a3]),
    ("blac;", [0x2dd]), ("darr;", [0x21ca]), ("elta;", [0x3b4]), ("harl;", [0x21c3]),
    ("harr;", [0x21c2]), ("iams;", [0x2666]), ("isin;", [0x22f2]), ("ivide", [0xf7]),
    ("oteq;", [0x2250]), ("tdot;", [0x22f1]), ("trif;", [0x25be]), ("uarr;", [0x21f5]),
    ("uhar;", [0x296f]), ("Arr;", [0x21d3]), ("Har;", [0x2965]), ("arr;", [0x2193]),
    ("ash;", [0x2010]), ("iam;", [0x22c4]), ("jcy;", [0x452]), ("opf;", [0x1d555]),
    ("scr;", [0x1d4b9]), ("scy;", [0x455]), ("sol;", [0x29f6]), ("tri;", [0x25bf]),
    ("zcy;", [0x45f]), ("cy;", [0x434]), ("eg;", [0xb0]), ("fr;", [0x1d521]), ("ie;", [0xa8]),
    ("iv;", [0xf7]), ("ot;", [0x2d9]), ("d;", [0x2146]), ("eg", [0xb0])]

/-- The names that start with `e`. -/
def lowerE : List (String × List Nat) :=
  [("xponentiale;", [0x2147]), ("qslantless;", [0x2a95]), ("xpectation;", [0x2130]),
    ("qslantgtr;", [0x2a96]), ("linters;", [0x23e7]), ("mptyset;", [0x2205]),
    ("qvparsl;", [0x29e5]), ("psilon;", [0x3b5]), ("qcolon;", [0x2255]), ("quivDD;", [0x2a78]),
    ("acute;", [0xe9]), ("aster;", [0x2a6e]), ("caron;", [0x11b]), ("colon;", [0x2255]),
    ("grave;", [0xe8]), ("gsdot;", [0x2a98]), ("lsdot;", [0x2a97]), ("mptyv;", [0x2205]),
    ("msp13;", [0x2004]), ("msp14;", [0x2005]), ("parsl;", [0x29e3]), ("qcirc;", [0x2256]),
    ("quals;", [0x3d]), ("quest;", [0x225f]), ("DDot;", [0x2a77]), ("acute", [0xe9]),
    ("circ;", [0xea]), ("fDot;", [0x2252]), ("grave", [0xe8]), ("macr;", [0x113]),
    ("mpty;", [0x2205]), ("ogon;", [0x119]), ("plus;", [0x2a71]), ("psiv;", [0x3f5]),
    ("qsim;", [0x2242]), ("quiv;", [0x2261]), ("rDot;", [0x2253]), ("rarr;", [0x2971]),
    ("sdot;", [0x2250]), ("xist;", [0x2203]), ("Dot;", [0x2251]), ("cir;", [0x2256]),
    ("circ", [0xea]), ("dot;", [0x117]), ("msp;", [0x2003]), ("nsp;", [0x2002]),
    ("opf;", [0x1d556]), ("par;", [0x22d5]), ("psi;", [0x3b5]), ("scr;", [0x212f]),
    ("sim;", [0x2242]), ("uml;", [0xeb]), ("uro;", [0x20ac]), ("xcl;", [0x21]), ("cy;", [0x44d]),
    ("fr;", [0x1d522]), ("gs;", [0x2a96]), ("ll;", [0x2113]), ("ls;", [0x2a95]), ("ng;", [0x14b]),
    ("ta;", [0x3b7]), ("th;", [0xf0]), ("uml", [0xeb]), ("e;", [0x2147]), ("g;", [0x2a9a]),
    ("l;", [0x2a99]), ("th", [0xf0])]

/-- The names that start with `f`. -/
def lowerF : List (String × List Nat) :=
  [("allingdotseq;", [0x2252]), ("partint;", [0x2a0d]), ("emale;", [0x2640]), ("filig;", [0xfb03]),
    ("fllig;", [0xfb04]), ("orall;", [0x2200]), ("rac12;", [0xbd]), ("rac13;", [0x2153]),
    ("rac14;", [0xbc]), ("rac15;", [0x2155]), ("rac16;", [0x2159]), ("rac18;", [0x215b]),
    ("rac23;", [0x2154]), ("rac25;", [0x2156]), ("rac34;", [0xbe]), ("rac35;", [0x2157]),
    ("rac38;", [0x215c]), ("rac45;", [0x2158]), ("rac56;", [0x215a]), ("rac58;", [0x215d]),
    ("rac78;", [0x215e]), ("flig;", [0xfb00]), ("ilig;", [0xfb01]), ("jlig;", [0x66, 0x6a]),
    ("llig;", [0xfb02]), ("ltns;", [0x25b1]), ("orkv;", [0x2ad9]), ("rac12", [0xbd]),
    ("rac14", [0xbc]), ("rac34", [0xbe]), ("rasl;", [0x2044]), ("rown;", [0x2322]),
    ("lat;", [0x266d]), ("nof;", [0x192]), ("opf;", [0x1d557]), ("ork;", [0x22d4]),
    ("scr;", [0x1d4bb]), ("cy;", [0x444]), ("fr;", [0x1d523])]

/-- The names that start with `g`. -/
def lowerG : List (String × List Nat) :=
  [("treqqless;", [0x2a8c]), ("trapprox;", [0x2a86]), ("treqless;", [0x22db]),
    ("vertneqq;", [0x2269, 0xfe00]), ("eqslant;", [0x2a7e]), ("esdotol;", [0x2a84]),
    ("napprox;", [0x2a8a]), ("esdoto;", [0x2a82]), ("tquest;", [0x2a7c]), ("trless;", [0x2277]),
    ("acute;", [0x1f5]), ("ammad;", [0x3dd]), ("breve;", [0x11f]), ("esdot;", [0x2a80]),
    ("esles;", [0x2a94]), ("tlPar;", [0x2995]), ("trarr;", [0x2978]), ("trdot;", [0x22d7]),
    ("trsim;", [0x2273]), ("amma;", [0x3b3]), ("circ;", [0x11d]), ("escc;", [0x2aa9]),
    ("imel;", [0x2137]), ("neqq;", [0x2269]), ("nsim;", [0x22e7]), ("rave;", [0x60]),
    ("sime;", [0x2a8e]), ("siml;", [0x2a90]), ("tcir;", [0x2a7a]), ("tdot;", [0x22d7]),
    ("dot;", [0x121]), ("eqq;", [0x2267]), ("esl;", [0x22db, 0xfe00]), ("jcy;", [0x453]),
    ("nap;", [0x2a8a]), ("neq;", [0x2a88]), ("opf;", [0x1d558]), ("scr;", [0x210a]),
    ("sim;", [0x2273]), ("tcc;", [0x2aa7]), ("vnE;", [0x2269, 0xfe00]), ("El;", [0x2a8c]),
    ("ap;", [0x2a86]), ("cy;", [0x433]), ("el;", [0x22db]), ("eq;", [0x2265]), ("es;", [0x2a7e]),
    ("fr;", [0x1d524]), ("gg;", [0x22d9]), ("lE;", [0x2a92]), ("la;", [0x2aa5]), ("lj;", [0x2aa4]),
    ("nE;", [0x2269]), ("ne;", [0x2a88]), ("E;", [0x2267]), ("e;", [0x2265]), ("g;", [0x226b]),
    ("l;", [0x2277]), ("t;", [0x3e]), ("t", [0x3e])]

/-- The names that start with `h`. -/
def lowerH : List (String × List Nat) :=
  [("ookrightarrow;", [0x21aa]), ("ookleftarrow;", [0x21a9]), ("eartsuit;", [0x2665]),
    ("ksearow;", [0x2925]), ("kswarow;", [0x2926]), ("arrcir;", [0x2948]), ("airsp;", [0x200a]),
    ("amilt;", [0x210b]), ("ardcy;", [0x44a]), ("earts;", [0x2665]), ("ellip;", [0x2026]),
    ("ercon;", [0x22b9]), ("omtht;", [0x223b]), ("orbar;", [0x2015]), ("slash;", [0x210f]),
    ("strok;", [0x127]), ("ybull;", [0x2043]), ("yphen;", [0x2010]), ("arrw;", [0x21ad]),
    ("circ;", [0x125]), ("oarr;", [0x21ff]), ("Arr;", [0x21d4]), ("alf;", [0xbd]),
    ("arr;", [0x2194]), ("bar;", [0x210f]), ("opf;", [0x1d559]), ("scr;", [0x1d4bd]),
    ("fr;", [0x1d525])]

/-- The names that start with `i`. -/
def lowerI : List (String × List Nat) :=
  [("magline;", [0x2110]), ("magpart;", [0x2111]), ("nfintie;", [0x29dd]), ("ntegers;", [0x2124]),
    ("ntercal;", [0x22ba]), ("ntlarhk;", [0x2a17]), ("ntprod;", [0x2a3c]), ("sindot;", [0x22f5]),
    ("acute;", [0xed]), ("grave;", [0xec]), ("iiint;", [0x2a0c]), ("infin;", [0x29dc]),
    ("ncare;", [0x2105]), ("nodot;", [0x131]), ("ntcal;", [0x22ba]), ("quest;", [0xbf]),
    ("sinsv;", [0x22f3]), ("tilde;", [0x129]), ("acute", [0xed]), ("circ;", [0xee]),
    ("excl;", [0xa1]), ("grave", [0xec]), ("iint;", [0x222d]), ("iota;", [0x2129]),
    ("jlig;", [0x133]), ("macr;", [0x12b]), ("mage;", [0x2111]), ("math;", [0x131]),
    ("mped;", [0x1b5]), ("nfin;", [0x221e]), ("ogon;", [0x12f]), ("prod;", [0x2a3c]),
    ("quest", [0xbf]), ("sinE;", [0x22f9]), ("sins;", [0x22f4]), ("sinv;", [0x2208]),
    ("ukcy;", [0x456]), ("circ", [0xee]), ("ecy;", [0x435]), ("excl", [0xa1]), ("mof;", [0x22b7]),
    ("ocy;", [0x451]), ("opf;", [0x1d55a]), ("ota;", [0x3b9]), ("scr;", [0x1d4be]),
    ("sin;", [0x2208]), ("uml;", [0xef]), ("cy;", [0x438]), ("ff;", [0x21d4]), ("fr;", [0x1d526]),
    ("nt;", [0x222b]), ("uml", [0xef]), ("c;", [0x2063]), ("i;", [0x2148]), ("n;", [0x2208]),
    ("t;", [0x2062])]

/-- The names that start with `j`. -/
def lowerJ : List (String × List Nat) :=
  [("sercy;", [0x458]), ("circ;", [0x135]), ("math;", [0x237]), ("ukcy;", [0x454]),
    ("opf;", [0x1d55b]), ("scr;", [0x1d4bf]), ("cy;", [0x439]), ("fr;", [0x1d527])]

/-- The names that start with `k`. -/
def lowerK : List (String × List Nat) :=
  [("appav;", [0x3f0]), ("cedil;", [0x137]), ("green;", [0x138]), ("appa;", [0x3ba]),
    ("hcy;", [0x445]), ("jcy;", [0x45c]), ("opf;", [0x1d55c]), ("scr;", [0x1d4c0]),
    ("cy;", [0x43a]), ("fr;", [0x1d528])]

/-- The names that start with `l`. -/
def lowerL : List (String × List Nat) :=
  [("eftrightsquigarrow;", [0x21ad]), ("ongleftrightarrow;", [0x27f7]),
    ("eftrightharpoons;", [0x21cb]), ("eftharpoondown;", [0x21bd]), ("eftrightarrows;", [0x21c6]),
    ("eftleftarrows;", [0x21c7]), ("eftrightarrow;", [0x2194]), ("eftthreetimes;", [0x22cb]),
    ("ongrightarrow;", [0x27f6]), ("ooparrowright;", [0x21ac]), ("eftarrowtail;", [0x21a2]),
    ("eftharpoonup;", [0x21bc]), ("ongleftarrow;", [0x27f5]), ("ooparrowleft;", [0x21ab]),
    ("essapprox;", [0x2a85]), ("esseqqgtr;", [0x2a8b]), ("moustache;", [0x23b0]),
    ("ongmapsto;", [0x27fc]), ("eftarrow;", [0x2190]), ("esseqgtr;", [0x22da]),
    ("vertneqq;", [0x2268, 0xfe00]), ("aemptyv;", [0x29b4]), ("drushar;", [0x294b]),
    ("eqslant;", [0x2a7d]), ("esdotor;", [0x2a83]), ("lcorner;", [0x231e]), ("napprox;", [0x2a89]),
    ("rcorner;", [0x231f]), ("urdshar;", [0x294a]), ("arrbfs;", [0x291f]), ("arrsim;", [0x2973]),
    ("brksld;", [0x298f]), ("brkslu;", [0x298d]), ("drdhar;", [0x2967]), ("esdoto;", [0x2a81]),
    ("essdot;", [0x22d6]), ("essgtr;", [0x2276]), ("esssim;", [0x2272]), ("otimes;", [0x2a34]),
    ("ozenge;", [0x25ca]), ("tquest;", [0x2a7b]), ("uruhar;", [0x2966]), ("Atail;", [0x291b]),
    ("acute;", [0x13a]), ("agran;", [0x2112]), ("ambda;", [0x3bb]), ("angle;", [0x27e8]),
    ("arrfs;", [0x291d]), ("arrhk;", [0x21a9]), ("arrlp;", [0x21ab]), ("arrpl;", [0x2939]),
    ("arrtl;", [0x21a2]), ("atail;", [0x2919]), ("brace;", [0x7b]), ("brack;", [0x5b]),
    ("caron;", [0x13e]), ("cedil;", [0x13c]), ("dquor;", [0x201e]), ("esdot;", [0x2a7f]),
    ("esges;", [0x2a93]), ("fisht;", [0x297c]), ("floor;", [0x230a]), ("harul;", [0x296a]),
    ("lhard;", [0x296b]), ("midot;", [0x140]), ("moust;", [0x23b0]), ("oplus;", [0x2a2d]),
    ("owast;", [0x2217]), ("owbar;", [0x5f]), ("parlt;", [0x2993]), ("rhard;", [0x296d]),
    ("saquo;", [0x2039]), ("squor;", [0x201a]), ("strok;", [0x142]), ("three;", [0x22cb]),
    ("times;", [0x22c9]), ("tlarr;", [0x2976]), ("trPar;", [0x2996]), ("Aarr;", [0x21da]),
    ("Barr;", [0x290e]), ("angd;", [0x2991]), ("aquo;", [0xab]), ("arrb;", [0x21e4]),
    ("ates;", [0x2aad, 0xfe00]), ("barr;", [0x290c]), ("bbrk;", [0x2772]), ("brke;", [0x298b]),
    ("ceil;", [0x2308]), ("dquo;", [0x201c]), ("escc;", [0x2aa8]), ("hard;", [0x21bd]),
    ("haru;", [0x21bc]), ("hblk;", [0x2584]), ("larr;", [0x21c7]), ("ltri;", [0x25fa]),
    ("neqq;", [0x2268]), ("nsim;", [0x22e6]), ("oang;", [0x27ec]), ("oarr;", [0x21fd]),
    ("obrk;", [0x27e6]), ("opar;", [0x2985]), ("rarr;", [0x21c6]), ("rhar;", [0x21cb]),
    ("rtri;", [0x22bf]), ("sime;", [0x2a8d]), ("simg;", [0x2a8f]), ("squo;", [0x2018]),
    ("tcir;", [0x2a79]), ("tdot;", [0x22d6]), ("trie;", [0x22b4]), ("trif;", [0x25c2]),
    ("Arr;", [0x21d0]), ("Har;", [0x2962]), ("ang;", [0x27e8]), ("aquo", [0xab]),
    ("arr;", [0x2190]), ("ate;", [0x2aad]), ("cub;", [0x7b]), ("dca;", [0x2936]),
    ("dsh;", [0x21b2]), ("eqq;", [0x2266]), ("esg;", [0x22da, 0xfe00]), ("jcy;", [0x459]),
    ("nap;", [0x2a89]), ("neq;", [0x2a87]), ("opf;", [0x1d55d]), ("ozf;", [0x29eb]),
    ("par;", [0x28]), ("scr;", [0x1d4c1]), ("sim;", [0x2272]), ("sqb;", [0x5b]), ("tcc;", [0x2aa6]),
    ("tri;", [0x25c3]), ("vnE;", [0x2268, 0xfe00]), ("Eg;", [0x2a8b]), ("ap;", [0x2a85]),
    ("at;", [0x2aab]), ("cy;", [0x43b]), ("eg;", [0x22da]), ("eq;", [0x2264]), ("es;", [0x2a7d]),
    ("fr;", [0x1d529]), ("gE;", [0x2a91]), ("nE;", [0x2268]), ("ne;", [0x2a87]), ("oz;", [0x25ca]),
    ("rm;", [0x200e]), ("sh;", [0x21b0]), ("E;", [0x2266]), ("e;", [0x2264]), ("g;", [0x2276]),
    ("l;", [0x226a]), ("t;", [0x3c]), ("t", [0x3c])]

/-- The names that start with `m`. -/
def lowerM : List (String × List Nat) :=
  [("easuredangle;", [0x2221]), ("apstodown;", [0x21a7]), ("apstoleft;", [0x21a4]),
    ("apstoup;", [0x21a5]), ("ultimap;", [0x22b8]), ("altese;", [0x2720]), ("inusdu;", [0x2a2a]),
    ("apsto;", [0x21a6]), ("arker;", [0x25ae]), ("comma;", [0x2a29]), ("idast;", [0x2a]),
    ("idcir;", [0x2af0]), ("iddot;", [0xb7]), ("inusb;", [0x229f]), ("inusd;", [0x2238]),
    ("nplus;", [0x2213]), ("odels;", [0x22a7]), ("stpos;", [0x223e]), ("DDot;", [0x223a]),
    ("dash;", [0x2014]), ("icro;", [0xb5]), ("iddot", [0xb7]), ("inus;", [0x2212]),
    ("umap;", [0x22b8]), ("acr;", [0xaf]), ("ale;", [0x2642]), ("alt;", [0x2720]), ("icro", [0xb5]),
    ("lcp;", [0x2adb]), ("ldr;", [0x2026]), ("opf;", [0x1d55e]), ("scr;", [0x1d4c2]),
    ("acr", [0xaf]), ("ap;", [0x21a6]), ("cy;", [0x43c]), ("fr;", [0x1d52a]), ("ho;", [0x2127]),
    ("id;", [0x2223]), ("p;", [0x2213]), ("u;", [0x3bc])]

/-- The names that start with `n`. -/
def lowerN : List (String × List Nat) :=
  [("trianglerighteq;", [0x22ed]), ("Leftrightarrow;", [0x21ce]), ("leftrightarrow;", [0x21ae]),
    ("trianglelefteq;", [0x22ec]), ("shortparallel;", [0x2226]), ("triangleright;", [0x22eb]),
    ("triangleleft;", [0x22ea]), ("Rightarrow;", [0x21cf]), ("rightarrow;", [0x219b]),
    ("Leftarrow;", [0x21cd]), ("leftarrow;", [0x219a]), ("subseteqq;", [0x2ac5, 0x338]),
    ("supseteqq;", [0x2ac6, 0x338]), ("geqslant;", [0x2a7e, 0x338]), ("leqslant;", [0x2a7d, 0x338]),
    ("parallel;", [0x2226]), ("shortmid;", [0x2224]), ("subseteq;", [0x2288]),
    ("supseteq;", [0x2289]), ("aturals;", [0x2115]), ("congdot;", [0x2a6d, 0x338]),
    ("otindot;", [0x22f5, 0x338]), ("approx;", [0x2249]), ("atural;", [0x266e]),
    ("earrow;", [0x2197]), ("exists;", [0x2204]), ("otinva;", [0x2209]), ("otinvb;", [0x22f7]),
    ("otinvc;", [0x22f6]), ("otniva;", [0x220c]), ("otnivb;", [0x22fe]), ("otnivc;", [0x22fd]),
    ("polint;", [0x2a14]), ("preceq;", [0x2aaf, 0x338]), ("sqsube;", [0x22e2]),
    ("sqsupe;", [0x22e3]), ("subset;", [0x2282, 0x20d2]), ("succeq;", [0x2ab0, 0x338]),
    ("supset;", [0x2283, 0x20d2]), ("vinfin;", [0x29de]), ("vltrie;", [0x22b4, 0x20d2]),
    ("vrtrie;", [0x22b5, 0x20d2]), ("warrow;", [0x2196]), ("VDash;", [0x22af]),
    ("Vdash;", [0x22ae]), ("acute;", [0x144]), ("bumpe;", [0x224f, 0x338]), ("caron;", [0x148]),
    ("cedil;", [0x146]), ("earhk;", [0x2924]), ("equiv;", [0x2262]), ("esear;", [0x2928]),
    ("exist;", [0x2204]), ("ltrie;", [0x22ec]), ("otinE;", [0x22f9, 0x338]),
    ("parsl;", [0x2afd, 0x20e5]), ("prcue;", [0x22e0]), ("rarrc;", [0x2933, 0x338]),
    ("rarrw;", [0x219d, 0x338]), ("rtrie;", [0x22ed]), ("sccue;", [0x22e1]), ("simeq;", [0x2244]),
    ("tilde;", [0xf1]), ("umero;", [0x2116]), ("vDash;", [0x22ad]), ("vHarr;", [0x2904]),
    ("vdash;", [0x22ac]), ("vlArr;", [0x2902]), ("vrArr;", [0x2903]), ("warhk;", [0x2923]),
    ("wnear;", [0x2927]), ("abla;", [0x2207]), ("apid;", [0x224b, 0x338]), ("apos;", [0x149]),
    ("atur;", [0x266e]), ("bump;", [0x224e, 0x338]), ("cong;", [0x2247]), ("dash;", [0x2013]),
    ("eArr;", [0x21d7]), ("earr;", [0x2197]), ("edot;", [0x2250, 0x338]),
    ("esim;", [0x2242, 0x338]), ("geqq;", [0x2267, 0x338]), ("gsim;", [0x2275]),
    ("hArr;", [0x21ce]), ("harr;", [0x21ae]), ("hpar;", [0x2af2]), ("lArr;", [0x21cd]),
    ("larr;", [0x219a]), ("leqq;", [0x2266, 0x338]), ("less;", [0x226e]), ("lsim;", [0x2274]),
    ("ltri;", [0x22ea]), ("otin;", [0x2209]), ("otni;", [0x220c]), ("part;", [0x2202, 0x338]),
    ("prec;", [0x2280]), ("rArr;", [0x21cf]), ("rarr;", [0x219b]), ("rtri;", [0x22eb]),
    ("sime;", [0x2244]), ("smid;", [0x2224]), ("spar;", [0x2226]), ("subE;", [0x2ac5, 0x338]),
    ("sube;", [0x2288]), ("succ;", [0x2281]), ("supE;", [0x2ac6, 0x338]), ("supe;", [0x2289]),
    ("tilde", [0xf1]), ("umsp;", [0x2007]), ("vsim;", [0x223c, 0x20d2]), ("wArr;", [0x21d6]),
    ("warr;", [0x2196]), ("Gtv;", [0x226b, 0x338]), ("Ltv;", [0x226a, 0x338]),
    ("ang;", [0x2220, 0x20d2]), ("apE;", [0x2a70, 0x338]), ("bsp;", [0xa0]), ("cap;", [0x2a43]),
    ("cup;", [0x2a42]), ("geq;", [0x2271]), ("ges;", [0x2a7e, 0x338]), ("gtr;", [0x226f]),
    ("isd;", [0x22fa]), ("jcy;", [0x45a]), ("ldr;", [0x2025]), ("leq;", [0x2270]),
    ("les;", [0x2a7d, 0x338]), ("mid;", [0x2224]), ("opf;", [0x1d55f]), ("par;", [0x2226]),
    ("pre;", [0x2aaf, 0x338]), ("sce;", [0x2ab0, 0x338]), ("scr;", [0x1d4c3]), ("sim;", [0x2241]),
    ("sub;", [0x2284]), ("sup;", [0x2285]), ("tgl;", [0x2279]), ("tlg;", [0x2278]),
    ("vap;", [0x224d, 0x20d2]), ("vge;", [0x2265, 0x20d2]), ("vgt;", [0x3e, 0x20d2]),
    ("vle;", [0x2264, 0x20d2]), ("vlt;", [0x3c, 0x20d2]), ("Gg;", [0x22d9, 0x338]),
    ("Gt;", [0x226b, 0x20d2]), ("Ll;", [0x22d8, 0x338]), ("Lt;", [0x226a, 0x20d2]),
    ("ap;", [0x2249]), ("bsp", [0xa0]), ("cy;", [0x43d]), ("fr;", [0x1d52b]),
    ("gE;", [0x2267, 0x338]), ("ge;", [0x2271]), ("gt;", [0x226f]), ("is;", [0x22fc]),
    ("iv;", [0x220b]), ("lE;", [0x2266, 0x338]), ("le;", [0x2270]), ("lt;", [0x226e]),
    ("ot;", [0xac]), ("pr;", [0x2280]), ("sc;", [0x2281]), ("um;", [0x23]), ("e;", [0x2260]),
    ("i;", [0x220b]), ("ot", [0xac]), ("u;", [0x3bd])]

/-- The names that start with `o`. -/
def lowerO : List (String × List Nat) :=
  [("timesas;", [0x2a36]), ("lcross;", [0x29bb]), ("micron;", [0x3bf]), ("rderof;", [0x2134]),
    ("rslope;", [0x2a57]), ("acute;", [0xf3]), ("dblac;", [0x151]), ("dsold;", [0x29bc]),
    ("grave;", [0xf2]), ("minus;", [0x2296]), ("rigof;", [0x22b6]), ("slash;", [0xf8]),
    ("tilde;", [0xf5]), ("times;", [0x2297]), ("acute", [0xf3]), ("circ;", [0xf4]),
    ("dash;", [0x229d]), ("elig;", [0x153]), ("fcir;", [0x29bf]), ("grave", [0xf2]),
    ("hbar;", [0x29b5]), ("larr;", [0x21ba]), ("lcir;", [0x29be]), ("line;", [0x203e]),
    ("macr;", [0x14d]), ("mega;", [0x3c9]), ("perp;", [0x29b9]), ("plus;", [0x2295]),
    ("rarr;", [0x21bb]), ("rder;", [0x2134]), ("slash", [0xf8]), ("tilde", [0xf5]),
    ("vbar;", [0x233d]), ("ast;", [0x229b]), ("cir;", [0x229a]), ("circ", [0xf4]),
    ("div;", [0x2a38]), ("dot;", [0x2299]), ("gon;", [0x2db]), ("int;", [0x222e]),
    ("mid;", [0x29b6]), ("opf;", [0x1d560]), ("par;", [0x29b7]), ("rdf;", [0xaa]), ("rdm;", [0xba]),
    ("ror;", [0x2a56]), ("scr;", [0x2134]), ("sol;", [0x2298]), ("uml;", [0xf6]), ("cy;", [0x43e]),
    ("fr;", [0x1d52c]), ("gt;", [0x29c1]), ("hm;", [0x3a9]), ("lt;", [0x29c0]), ("rd;", [0x2a5d]),
    ("rdf", [0xaa]), ("rdm", [0xba]), ("rv;", [0x2a5b]), ("uml", [0xf6]), ("S;", [0x24c8]),
    ("r;", [0x2228])]

/-- The names that start with `p`. -/
def lowerP : List (String × List Nat) :=
  [("reccurlyeq;", [0x227c]), ("recnapprox;", [0x2ab9]), ("recapprox;", [0x2ab7]),
    ("itchfork;", [0x22d4]), ("arallel;", [0x2225]), ("lusacir;", [0x2a23]), ("ointint;", [0x2a15]),
    ("recneqq;", [0x2ab5]), ("recnsim;", [0x22e8]), ("rofalar;", [0x232e]), ("rofline;", [0x2312]),
    ("rofsurf;", [0x2313]), ("ertenk;", [0x2031]), ("lanckh;", [0x210e]), ("luscir;", [0x2a22]),
    ("lussim;", [0x2a26]), ("lustwo;", [0x2a27]), ("recsim;", [0x227e]), ("arsim;", [0x2af3]),
    ("ercnt;", [0x25]), ("eriod;", [0x2e]), ("ermil;", [0x2030]), ("hmmat;", [0x2133]),
    ("lanck;", [0x210f]), ("lankv;", [0x210f]), ("lusdo;", [0x2214]), ("lusdu;", [0x2a25]),
    ("lusmn;", [0xb1]), ("receq;", [0x2aaf]), ("rimes;", [0x2119]), ("rnsim;", [0x22e8]),
    ("ropto;", [0x221d]), ("rurel;", [0x22b0]), ("uncsp;", [0x2008]), ("arsl;", [0x2afd]),
    ("hone;", [0x260e]), ("lusb;", [0x229e]), ("luse;", [0x2a72]), ("lusmn", [0xb1]),
    ("ound;", [0xa3]), ("rcue;", [0x227c]), ("rime;", [0x2032]), ("rnap;", [0x2ab9]),
    ("rsim;", [0x227e]), ("ara;", [0xb6]), ("art;", [0x2202]), ("erp;", [0x22a5]),
    ("hiv;", [0x3d5]), ("lus;", [0x2b]), ("opf;", [0x1d561]), ("ound", [0xa3]), ("rap;", [0x2ab7]),
    ("rec;", [0x227a]), ("rnE;", [0x2ab5]), ("rod;", [0x220f]), ("rop;", [0x221d]),
    ("scr;", [0x1d4c5]), ("ar;", [0x2225]), ("ara", [0xb6]), ("cy;", [0x43f]), ("fr;", [0x1d52d]),
    ("hi;", [0x3c6]), ("iv;", [0x3d6]), ("rE;", [0x2ab3]), ("re;", [0x2aaf]), ("si;", [0x3c8]),
    ("i;", [0x3c0]), ("m;", [0xb1]), ("r;", [0x227a])]

/-- The names that start with `q`. -/
def lowerQ : List (String × List Nat) :=
  [("uaternions;", [0x210d]), ("uatint;", [0x2a16]), ("uesteq;", [0x225f]), ("prime;", [0x2057]),
    ("uest;", [0x3f]), ("int;", [0x2a0c]), ("opf;", [0x1d562]), ("scr;", [0x1d4c6]),
    ("uot;", [0x22]), ("fr;", [0x1d52e]), ("uot", [0x22])]

/-- The names that start with `r`. -/
def lowerR : List (String × List Nat) :=
  [("ightleftharpoons;", [0x21cc]), ("ightharpoondown;", [0x21c1]), ("ightrightarrows;", [0x21c9]),
    ("ightleftarrows;", [0x21c4]), ("ightsquigarrow;", [0x219d]), ("ightthreetimes;", [0x22cc]),
    ("ightarrowtail;", [0x21a3]), ("ightharpoonup;", [0x21c0]), ("isingdotseq;", [0x2253]),
    ("ightarrow;", [0x2192]), ("moustache;", [0x23b1]), ("ationals;", [0x211a]),
    ("aemptyv;", [0x29b3]), ("ealpart;", [0x211c]), ("ppolint;", [0x2a12]), ("triltri;", [0x29ce]),
    ("arrbfs;", [0x2920]), ("arrsim;", [0x2974]), ("brksld;", [0x298e]), ("brkslu;", [0x2990]),
    ("dldhar;", [0x2969]), ("ealine;", [0x211b]), ("otimes;", [0x2a35]), ("uluhar;", [0x2968]),
    ("Atail;", [0x291c]), ("acute;", [0x155]), ("angle;", [0x27e9]), ("arrap;", [0x2975]),
    ("arrfs;", [0x291e]), ("arrhk;", [0x21aa]), ("arrlp;", [0x21ac]), ("arrpl;", [0x2945]),
    ("arrtl;", [0x21a3]), ("atail;", [0x291a]), ("brace;", [0x7d]), ("brack;", [0x5d]),
    ("caron;", [0x159]), ("cedil;", [0x157]), ("dquor;", [0x201d]), ("fisht;", [0x297d]),
    ("floor;", [0x230b]), ("harul;", [0x296c]), ("moust;", [0x23b1]), ("oplus;", [0x2a2e]),
    ("pargt;", [0x2994]), ("saquo;", [0x203a]), ("squor;", [0x2019]), ("three;", [0x22cc]),
    ("times;", [0x22ca]), ("Aarr;", [0x21db]), ("Barr;", [0x290f]), ("adic;", [0x221a]),
    ("angd;", [0x2992]), ("ange;", [0x29a5]), ("aquo;", [0xbb]), ("arrb;", [0x21e5]),
    ("arrc;", [0x2933]), ("arrw;", [0x219d]), ("atio;", [0x2236]), ("barr;", [0x290d]),
    ("bbrk;", [0x2773]), ("brke;", [0x298c]), ("ceil;", [0x2309]), ("dquo;", [0x201d]),
    ("eals;", [0x211d]), ("hard;", [0x21c1]), ("haru;", [0x21c0]), ("larr;", [0x21c4]),
    ("lhar;", [0x21cc]), ("nmid;", [0x2aee]), ("oang;", [0x27ed]), ("oarr;", [0x21fe]),
    ("obrk;", [0x27e7]), ("opar;", [0x2986]), ("rarr;", [0x21c9]), ("squo;", [0x2019]),
    ("trie;", [0x22b5]), ("trif;", [0x25b8]), ("Arr;", [0x21d2]), ("Har;", [0x2964]),
    ("ace;", [0x223d, 0x331]), ("ang;", [0x27e9]), ("aquo", [0xbb]), ("arr;", [0x2192]),
    ("cub;", [0x7d]), ("dca;", [0x2937]), ("dsh;", [0x21b3]), ("eal;", [0x211c]),
    ("ect;", [0x25ad]), ("hov;", [0x3f1]), ("ing;", [0x2da]), ("opf;", [0x1d563]), ("par;", [0x29]),
    ("scr;", [0x1d4c7]), ("sqb;", [0x5d]), ("tri;", [0x25b9]), ("cy;", [0x440]), ("eg;", [0xae]),
    ("fr;", [0x1d52f]), ("ho;", [0x3c1]), ("lm;", [0x200f]), ("sh;", [0x21b1]), ("eg", [0xae]),
    ("x;", [0x211e])]

/-- The names that start with `s`. -/
def lowerS : List (String × List Nat) :=
  [("traightepsilon;", [0x3f5]), ("hortparallel;", [0x2225]), ("mallsetminus;", [0x2216]),
    ("traightphi;", [0x3d5]), ("ucccurlyeq;", [0x227d]), ("uccnapprox;", [0x2aba]),
    ("qsubseteq;", [0x2291]), ("qsupseteq;", [0x2292]), ("ubsetneqq;", [0x2acb]),
    ("uccapprox;", [0x2ab8]), ("upsetneqq;", [0x2acc]), ("padesuit;", [0x2660]),
    ("ubseteqq;", [0x2ac5]), ("ubsetneq;", [0x228a]), ("upseteqq;", [0x2ac6]),
    ("upsetneq;", [0x228b]), ("cpolint;", [0x2a13]), ("etminus;", [0x2216]), ("hortmid;", [0x2223]),
    ("meparsl;", [0x29e4]), ("qsubset;", [0x228f]), ("qsupset;", [0x2290]), ("ubseteq;", [0x2286]),
    ("uccneqq;", [0x2ab6]), ("uccnsim;", [0x22e9]), ("upseteq;", [0x2287]), ("earrow;", [0x2198]),
    ("implus;", [0x2a24]), ("imrarr;", [0x2972]), ("ubedot;", [0x2ac3]), ("ubmult;", [0x2ac1]),
    ("ubplus;", [0x2abf]), ("ubrarr;", [0x2979]), ("uccsim;", [0x227f]), ("updsub;", [0x2ad8]),
    ("upedot;", [0x2ac4]), ("uphsol;", [0x27c9]), ("uphsub;", [0x2ad7]), ("uplarr;", [0x297b]),
    ("upmult;", [0x2ac2]), ("upplus;", [0x2ac0]), ("warrow;", [0x2199]), ("acute;", [0x15b]),
    ("caron;", [0x161]), ("cedil;", [0x15f]), ("cnsim;", [0x22e9]), ("earhk;", [0x2925]),
    ("eswar;", [0x2929]), ("frown;", [0x2322]), ("hchcy;", [0x449]), ("igmaf;", [0x3c2]),
    ("igmav;", [0x3c2]), ("imdot;", [0x2a6a]), ("mashp;", [0x2a33]), ("oftcy;", [0x44c]),
    ("olbar;", [0x233f]), ("pades;", [0x2660]), ("qcaps;", [0x2293, 0xfe00]),
    ("qcups;", [0x2294, 0xfe00]), ("qsube;", [0x2291]), ("qsupe;", [0x2292]), ("quare;", [0x25a1]),
    ("quarf;", [0x25aa]), ("setmn;", [0x2216]), ("smile;", [0x2323]), ("starf;", [0x22c6]),
    ("ubdot;", [0x2abd]), ("ubset;", [0x2282]), ("ubsim;", [0x2ac7]), ("ubsub;", [0x2ad5]),
    ("ubsup;", [0x2ad3]), ("ucceq;", [0x2ab0]), ("updot;", [0x2abe]), ("upset;", [0x2283]),
    ("upsim;", [0x2ac8]), ("upsub;", [0x2ad4]), ("upsup;", [0x2ad6]), ("warhk;", [0x2926]),
    ("wnwar;", [0x292a]), ("bquo;", [0x201a]), ("ccue;", [0x227d]), ("circ;", [0x15d]),
    ("cnap;", [0x2aba]), ("csim;", [0x227f]), ("dotb;", [0x22a1]), ("dote;", [0x2a66]),
    ("eArr;", [0x21d8]), ("earr;", [0x2198]), ("etmn;", [0x2216]), ("harp;", [0x266f]),
    ("igma;", [0x3c3]), ("imeq;", [0x2243]), ("imgE;", [0x2aa0]), ("imlE;", [0x2a9f]),
    ("imne;", [0x2246]), ("larr;", [0x2190]), ("mile;", [0x2323]), ("mtes;", [0x2aac, 0xfe00]),
    ("qcap;", [0x2293]), ("qcup;", [0x2294]), ("qsub;", [0x228f]), ("qsup;", [0x2290]),
    ("rarr;", [0x2192]), ("tarf;", [0x2605]), ("trns;", [0xaf]), ("ubnE;", [0x2acb]),
    ("ubne;", [0x228a]), ("upnE;", [0x2acc]), ("upne;", [0x228b]), ("wArr;", [0x21d9]),
    ("warr;", [0x2199]), ("zlig;", [0xdf]), ("cap;", [0x2ab8]), ("cnE;", [0x2ab6]),
    ("dot;", [0x22c5]), ("ect;", [0xa7]), ("emi;", [0x3b]), ("ext;", [0x2736]), ("hcy;", [0x448]),
    ("ime;", [0x2243]), ("img;", [0x2a9e]), ("iml;", [0x2a9d]), ("mid;", [0x2223]),
    ("mte;", [0x2aac]), ("olb;", [0x29c4]), ("opf;", [0x1d564]), ("par;", [0x2225]),
    ("quf;", [0x25aa]), ("scr;", [0x1d4c8]), ("tar;", [0x2606]), ("ubE;", [0x2ac5]),
    ("ube;", [0x2286]), ("ucc;", [0x227b]), ("ung;", [0x266a]), ("up1;", [0xb9]), ("up2;", [0xb2]),
    ("up3;", [0xb3]), ("upE;", [0x2ac6]), ("upe;", [0x2287]), ("zlig", [0xdf]), ("cE;", [0x2ab4]),
    ("ce;", [0x2ab0]), ("cy;", [0x441]), ("ect", [0xa7]), ("fr;", [0x1d530]), ("hy;", [0xad]),
    ("im;", [0x223c]), ("mt;", [0x2aaa]), ("ol;", [0x2f]), ("qu;", [0x25a1]), ("ub;", [0x2282]),
    ("um;", [0x2211]), ("up1", [0xb9]), ("up2", [0xb2]), ("up3", [0xb3]), ("up;", [0x2283]),
    ("c;", [0x227b]), ("hy", [0xad])]

/-- The names that start with `t`. -/
def lowerT : List (String × List Nat) :=
  [("woheadrightarrow;", [0x21a0]), ("woheadleftarrow;", [0x219e]), ("rianglerighteq;", [0x22b5]),
    ("rianglelefteq;", [0x22b4]), ("riangleright;", [0x25b9]), ("riangledown;", [0x25bf]),
    ("riangleleft;", [0x25c3]), ("hickapprox;", [0x2248]), ("herefore;", [0x2234]),
    ("riangleq;", [0x225c]), ("hetasym;", [0x3d1]), ("hicksim;", [0x223c]), ("imesbar;", [0x2a31]),
    ("riangle;", [0x25b5]), ("riminus;", [0x2a3a]), ("rpezium;", [0x23e2]), ("opfork;", [0x2ada]),
    ("riplus;", [0x2a39]), ("ritime;", [0x2a3b]), ("arget;", [0x2316]), ("caron;", [0x165]),
    ("cedil;", [0x163]), ("elrec;", [0x2315]), ("here4;", [0x2234]), ("hetav;", [0x3d1]),
    ("hinsp;", [0x2009]), ("hksim;", [0x223c]), ("imesb;", [0x22a0]), ("imesd;", [0x2a30]),
    ("opbot;", [0x2336]), ("opcir;", [0x2af1]), ("prime;", [0x2034]), ("ridot;", [0x25ec]),
    ("strok;", [0x167]), ("heta;", [0x3b8]), ("hkap;", [0x2248]), ("horn;", [0xfe]),
    ("ilde;", [0x2dc]), ("imes;", [0xd7]), ("rade;", [0x2122]), ("risb;", [0x29cd]),
    ("shcy;", [0x45b]), ("wixt;", [0x226c]), ("brk;", [0x23b4]), ("dot;", [0x20db]),
    ("horn", [0xfe]), ("imes", [0xd7]), ("int;", [0x222d]), ("oea;", [0x2928]), ("opf;", [0x1d565]),
    ("osa;", [0x2929]), ("rie;", [0x225c]), ("scr;", [0x1d4c9]), ("scy;", [0x446]),
    ("au;", [0x3c4]), ("cy;", [0x442]), ("fr;", [0x1d531]), ("op;", [0x22a4])]

/-- The names that start with `u`. -/
def lowerU : List (String × List Nat) :=
  [("pharpoonright;", [0x21be]), ("pharpoonleft;", [0x21bf]), ("pdownarrow;", [0x2195]),
    ("puparrows;", [0x21c8]), ("lcorner;", [0x231c]), ("rcorner;", [0x231d]), ("parrow;", [0x2191]),
    ("psilon;", [0x3c5]), ("wangle;", [0x29a7]), ("acute;", [0xfa]), ("breve;", [0x16d]),
    ("dblac;", [0x171]), ("fisht;", [0x297e]), ("grave;", [0xf9]), ("lcorn;", [0x231c]),
    ("lcrop;", [0x230f]), ("rcorn;", [0x231d]), ("rcrop;", [0x230e]), ("tilde;", [0x169]),
    ("acute", [0xfa]), ("brcy;", [0x45e]), ("circ;", [0xfb]), ("darr;", [0x21c5]),
    ("dhar;", [0x296e]), ("grave", [0xf9]), ("harl;", [0x21bf]), ("harr;", [0x21be]),
    ("hblk;", [0x2580]), ("ltri;", [0x25f8]), ("macr;", [0x16b]), ("ogon;", [0x173]),
    ("plus;", [0x228e]), ("psih;", [0x3d2]), ("ring;", [0x16f]), ("rtri;", [0x25f9]),
    ("tdot;", [0x22f0]), ("trif;", [0x25b4]), ("uarr;", [0x21c8]), ("Arr;", [0x21d1]),
    ("Har;", [0x2963]), ("arr;", [0x2191]), ("circ", [0xfb]), ("opf;", [0x1d566]),
    ("psi;", [0x3c5]), ("scr;", [0x1d4ca]), ("tri;", [0x25b5]), ("uml;", [0xfc]), ("cy;", [0x443]),
    ("fr;", [0x1d532]), ("ml;", [0xa8]), ("uml", [0xfc]), ("ml", [0xa8])]

/-- The names that start with `v`. -/
def lowerV : List (String × List Nat) :=
  [("artriangleright;", [0x22b3]), ("artriangleleft;", [0x22b2]),
    ("arsubsetneqq;", [0x2acb, 0xfe00]), ("arsupsetneqq;", [0x2acc, 0xfe00]),
    ("arsubsetneq;", [0x228a, 0xfe00]), ("arsupsetneq;", [0x228b, 0xfe00]), ("arepsilon;", [0x3f5]),
    ("arnothing;", [0x2205]), ("arpropto;", [0x221d]), ("arkappa;", [0x3f0]), ("arsigma;", [0x3c2]),
    ("artheta;", [0x3d1]), ("zigzag;", [0x299a]), ("angrt;", [0x299c]), ("arphi;", [0x3d5]),
    ("arrho;", [0x3f1]), ("eebar;", [0x22bb]), ("ellip;", [0x22ee]), ("erbar;", [0x7c]),
    ("subnE;", [0x2acb, 0xfe00]), ("subne;", [0x228a, 0xfe00]), ("supnE;", [0x2acc, 0xfe00]),
    ("supne;", [0x228b, 0xfe00]), ("Barv;", [0x2ae9]), ("Dash;", [0x22a8]), ("arpi;", [0x3d6]),
    ("dash;", [0x22a2]), ("eeeq;", [0x225a]), ("ltri;", [0x22b2]), ("nsub;", [0x2282, 0x20d2]),
    ("nsup;", [0x2283, 0x20d2]), ("prop;", [0x221d]), ("rtri;", [0x22b3]), ("Arr;", [0x21d5]),
    ("Bar;", [0x2ae8]), ("arr;", [0x2195]), ("ert;", [0x7c]), ("opf;", [0x1d567]),
    ("scr;", [0x1d4cb]), ("cy;", [0x432]), ("ee;", [0x2228]), ("fr;", [0x1d533])]

/-- The names that start with `w`. -/
def lowerW : List (String × List Nat) :=
  [("edbar;", [0x2a5f]), ("edgeq;", [0x2259]), ("eierp;", [0x2118]), ("reath;", [0x2240]),
    ("circ;", [0x175]), ("edge;", [0x2227]), ("opf;", [0x1d568]), ("scr;", [0x1d4cc]),
    ("fr;", [0x1d534]), ("p;", [0x2118]), ("r;", [0x2240])]

/-- The names that start with `x`. -/
def lowerX : List (String × List Nat) :=
  [("oplus;", [0x2a01]), ("otime;", [0x2a02]), ("sqcup;", [0x2a06]), ("uplus;", [0x2a04]),
    ("wedge;", [0x22c0]), ("circ;", [0x25ef]), ("dtri;", [0x25bd]), ("hArr;", [0x27fa]),
    ("harr;", [0x27f7]), ("lArr;", [0x27f8]), ("larr;", [0x27f5]), ("odot;", [0x2a00]),
    ("rArr;", [0x27f9]), ("rarr;", [0x27f6]), ("utri;", [0x25b3]), ("cap;", [0x22c2]),
    ("cup;", [0x22c3]), ("map;", [0x27fc]), ("nis;", [0x22fb]), ("opf;", [0x1d569]),
    ("scr;", [0x1d4cd]), ("vee;", [0x22c1]), ("fr;", [0x1d535]), ("i;", [0x3be])]

/-- The names that start with `y`. -/
def lowerY : List (String × List Nat) :=
  [("acute;", [0xfd]), ("acute", [0xfd]), ("circ;", [0x177]), ("acy;", [0x44f]), ("icy;", [0x457]),
    ("opf;", [0x1d56a]), ("scr;", [0x1d4ce]), ("ucy;", [0x44e]), ("uml;", [0xff]), ("cy;", [0x44b]),
    ("en;", [0xa5]), ("fr;", [0x1d536]), ("uml", [0xff]), ("en", [0xa5])]

/-- The names that start with `z`. -/
def lowerZ : List (String × List Nat) :=
  [("igrarr;", [0x21dd]), ("acute;", [0x17a]), ("caron;", [0x17e]), ("eetrf;", [0x2128]),
    ("dot;", [0x17c]), ("eta;", [0x3b6]), ("hcy;", [0x436]), ("opf;", [0x1d56b]),
    ("scr;", [0x1d4cf]), ("wnj;", [0x200c]), ("cy;", [0x437]), ("fr;", [0x1d537]),
    ("wj;", [0x200d])]

/-- The names that start with the given letter, without it, longest first. -/
def namesFrom : Char → List (String × List Nat)
  | 'A' => upperA
  | 'B' => upperB
  | 'C' => upperC
  | 'D' => upperD
  | 'E' => upperE
  | 'F' => upperF
  | 'G' => upperG
  | 'H' => upperH
  | 'I' => upperI
  | 'J' => upperJ
  | 'K' => upperK
  | 'L' => upperL
  | 'M' => upperM
  | 'N' => upperN
  | 'O' => upperO
  | 'P' => upperP
  | 'Q' => upperQ
  | 'R' => upperR
  | 'S' => upperS
  | 'T' => upperT
  | 'U' => upperU
  | 'V' => upperV
  | 'W' => upperW
  | 'X' => upperX
  | 'Y' => upperY
  | 'Z' => upperZ
  | 'a' => lowerA
  | 'b' => lowerB
  | 'c' => lowerC
  | 'd' => lowerD
  | 'e' => lowerE
  | 'f' => lowerF
  | 'g' => lowerG
  | 'h' => lowerH
  | 'i' => lowerI
  | 'j' => lowerJ
  | 'k' => lowerK
  | 'l' => lowerL
  | 'm' => lowerM
  | 'n' => lowerN
  | 'o' => lowerO
  | 'p' => lowerP
  | 'q' => lowerQ
  | 'r' => lowerR
  | 's' => lowerS
  | 't' => lowerT
  | 'u' => lowerU
  | 'v' => lowerV
  | 'w' => lowerW
  | 'x' => lowerX
  | 'y' => lowerY
  | 'z' => lowerZ
  | _ => []

end Reference

end Html

end LiterateLinks
