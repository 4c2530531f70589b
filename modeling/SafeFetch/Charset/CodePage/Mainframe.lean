import SafeFetch.Charset.CodePage.Basic

/-!
# Mainframe and terminal pages

Single-byte character sets of mainframes, of terminals and of the KOI-8 family.
-/

namespace SafeFetch.Charset.CodePage

/-- Single-byte character sets of mainframes, of terminals and of the KOI-8 family. -/
def mainframePages : List CodePage :=
  [
    ⟨"cp037",
      ["037", "csibm037", "ebcdic_cp_ca", "ebcdic_cp_nl", "ebcdic_cp_us", "ebcdic_cp_wt",
        "ibm037", "ibm039"],
      ofChars
        ["\x00\x01\x02\x03\x9c\x09\x86\x7f\x97\x8d\x8e\x0b\x0c\x0d\x0e\x0f",
          "\x10\x11\x12\x13\x9d\x85\x08\x87\x18\x19\x92\x8f\x1c\x1d\x1e\x1f",
          "\x80\x81\x82\x83\x84\x0a\x17\x1b\x88\x89\x8a\x8b\x8c\x05\x06\x07",
          "\x90\x91\x16\x93\x94\x95\x96\x04\x98\x99\x9a\x9b\x14\x15\x9e\x1a",
          "\x20\xa0\xe2\xe4\xe0\xe1\xe3\xe5\xe7\xf1\xa2.<(+|",
          "&\xe9\xea\xeb\xe8\xed\xee\xef\xec\xdf!$*);\xac",
          "-/\xc2\xc4\xc0\xc1\xc3\xc5\xc7\xd1\xa6,%_>?",
          "\xf8\xc9\xca\xcb\xc8\xcd\xce\xcf\xcc`:#@'=\"",
          "\xd8abcdefghi\xab\xbb\xf0\xfd\xfe\xb1",
          "\xb0jklmnopqr\xaa\xba\xe6\xb8\xc6\xa4",
          "\xb5~stuvwxyz\xa1\xbf\xd0\xdd\xde\xae",
          "^\xa3\xa5\xb7\xa9\xa7\xb6\xbc\xbd\xbe[]\xaf\xa8\xb4\xd7",
          "\x7bABCDEFGHI\xad\xf4\xf6\xf2\xf3\xf5",
          "\x7dJKLMNOPQR\xb9\xfb\xfc\xf9\xfa\xff",
          "\\\xf7STUVWXYZ\xb2\xd4\xd6\xd2\xd3\xd5",
          "0123456789\xb3\xdb\xdc\xd9\xda\x9f"]⟩,
    ⟨"cp1026",
      ["1026", "csibm1026", "ibm1026"],
      ofChars
        ["\x00\x01\x02\x03\x9c\x09\x86\x7f\x97\x8d\x8e\x0b\x0c\x0d\x0e\x0f",
          "\x10\x11\x12\x13\x9d\x85\x08\x87\x18\x19\x92\x8f\x1c\x1d\x1e\x1f",
          "\x80\x81\x82\x83\x84\x0a\x17\x1b\x88\x89\x8a\x8b\x8c\x05\x06\x07",
          "\x90\x91\x16\x93\x94\x95\x96\x04\x98\x99\x9a\x9b\x14\x15\x9e\x1a",
          "\x20\xa0\xe2\xe4\xe0\xe1\xe3\xe5\x7b\xf1\xc7.<(+!",
          "&\xe9\xea\xeb\xe8\xed\xee\xef\xec\xdf\u011e\u0130*);^",
          "-/\xc2\xc4\xc0\xc1\xc3\xc5[\xd1\u015f,%_>?",
          "\xf8\xc9\xca\xcb\xc8\xcd\xce\xcf\xcc\u0131:\xd6\u015e'=\xdc",
          "\xd8abcdefghi\xab\xbb\x7d`\xa6\xb1",
          "\xb0jklmnopqr\xaa\xba\xe6\xb8\xc6\xa4",
          "\xb5\xf6stuvwxyz\xa1\xbf]$@\xae",
          "\xa2\xa3\xa5\xb7\xa9\xa7\xb6\xbc\xbd\xbe\xac|\xaf\xa8\xb4\xd7",
          "\xe7ABCDEFGHI\xad\xf4~\xf2\xf3\xf5",
          "\u011fJKLMNOPQR\xb9\xfb\\\xf9\xfa\xff",
          "\xfc\xf7STUVWXYZ\xb2\xd4#\xd2\xd3\xd5",
          "0123456789\xb3\xdb\"\xd9\xda\x9f"]⟩,
    ⟨"cp1140",
      ["1140", "ibm1140"],
      ofChars
        ["\x00\x01\x02\x03\x9c\x09\x86\x7f\x97\x8d\x8e\x0b\x0c\x0d\x0e\x0f",
          "\x10\x11\x12\x13\x9d\x85\x08\x87\x18\x19\x92\x8f\x1c\x1d\x1e\x1f",
          "\x80\x81\x82\x83\x84\x0a\x17\x1b\x88\x89\x8a\x8b\x8c\x05\x06\x07",
          "\x90\x91\x16\x93\x94\x95\x96\x04\x98\x99\x9a\x9b\x14\x15\x9e\x1a",
          "\x20\xa0\xe2\xe4\xe0\xe1\xe3\xe5\xe7\xf1\xa2.<(+|",
          "&\xe9\xea\xeb\xe8\xed\xee\xef\xec\xdf!$*);\xac",
          "-/\xc2\xc4\xc0\xc1\xc3\xc5\xc7\xd1\xa6,%_>?",
          "\xf8\xc9\xca\xcb\xc8\xcd\xce\xcf\xcc`:#@'=\"",
          "\xd8abcdefghi\xab\xbb\xf0\xfd\xfe\xb1",
          "\xb0jklmnopqr\xaa\xba\xe6\xb8\xc6\u20ac",
          "\xb5~stuvwxyz\xa1\xbf\xd0\xdd\xde\xae",
          "^\xa3\xa5\xb7\xa9\xa7\xb6\xbc\xbd\xbe[]\xaf\xa8\xb4\xd7",
          "\x7bABCDEFGHI\xad\xf4\xf6\xf2\xf3\xf5",
          "\x7dJKLMNOPQR\xb9\xfb\xfc\xf9\xfa\xff",
          "\\\xf7STUVWXYZ\xb2\xd4\xd6\xd2\xd3\xd5",
          "0123456789\xb3\xdb\xdc\xd9\xda\x9f"]⟩,
    ⟨"cp273",
      ["273", "csibm273", "ibm273"],
      ofChars
        ["\x00\x01\x02\x03\x9c\x09\x86\x7f\x97\x8d\x8e\x0b\x0c\x0d\x0e\x0f",
          "\x10\x11\x12\x13\x9d\x85\x08\x87\x18\x19\x92\x8f\x1c\x1d\x1e\x1f",
          "\x80\x81\x82\x83\x84\x0a\x17\x1b\x88\x89\x8a\x8b\x8c\x05\x06\x07",
          "\x90\x91\x16\x93\x94\x95\x96\x04\x98\x99\x9a\x9b\x14\x15\x9e\x1a",
          "\x20\xa0\xe2\x7b\xe0\xe1\xe3\xe5\xe7\xf1\xc4.<(+!",
          "&\xe9\xea\xeb\xe8\xed\xee\xef\xec~\xdc$*);^",
          "-/\xc2[\xc0\xc1\xc3\xc5\xc7\xd1\xf6,%_>?",
          "\xf8\xc9\xca\xcb\xc8\xcd\xce\xcf\xcc`:#\xa7'=\"",
          "\xd8abcdefghi\xab\xbb\xf0\xfd\xfe\xb1",
          "\xb0jklmnopqr\xaa\xba\xe6\xb8\xc6\xa4",
          "\xb5\xdfstuvwxyz\xa1\xbf\xd0\xdd\xde\xae",
          "\xa2\xa3\xa5\xb7\xa9@\xb6\xbc\xbd\xbe\xac|\u203e\xa8\xb4\xd7",
          "\xe4ABCDEFGHI\xad\xf4\xa6\xf2\xf3\xf5",
          "\xfcJKLMNOPQR\xb9\xfb\x7d\xf9\xfa\xff",
          "\xd6\xf7STUVWXYZ\xb2\xd4\\\xd2\xd3\xd5",
          "0123456789\xb3\xdb]\xd9\xda\x9f"]⟩,
    ⟨"cp424",
      ["424", "csibm424", "ebcdic_cp_he", "ibm424"],
      ofChars
        ["\x00\x01\x02\x03\x9c\x09\x86\x7f\x97\x8d\x8e\x0b\x0c\x0d\x0e\x0f",
          "\x10\x11\x12\x13\x9d\x85\x08\x87\x18\x19\x92\x8f\x1c\x1d\x1e\x1f",
          "\x80\x81\x82\x83\x84\x0a\x17\x1b\x88\x89\x8a\x8b\x8c\x05\x06\x07",
          "\x90\x91\x16\x93\x94\x95\x96\x04\x98\x99\x9a\x9b\x14\x15\x9e\x1a",
          "\x20\u05d0\u05d1\u05d2\u05d3\u05d4\u05d5\u05d6\u05d7\u05d8\xa2.<(+|",
          "&\u05d9\u05da\u05db\u05dc\u05dd\u05de\u05df\u05e0\u05e1!$*);\xac",
          "-/\u05e2\u05e3\u05e4\u05e5\u05e6\u05e7\u05e8\u05e9\xa6,%_>?",
          "\ufffe\u05ea\ufffe\ufffe\xa0\ufffe\ufffe\ufffe\u2017`:#@'=\"",
          "\ufffeabcdefghi\xab\xbb\ufffe\ufffe\ufffe\xb1",
          "\xb0jklmnopqr\ufffe\ufffe\ufffe\xb8\ufffe\xa4",
          "\xb5~stuvwxyz\ufffe\ufffe\ufffe\ufffe\ufffe\xae",
          "^\xa3\xa5\xb7\xa9\xa7\xb6\xbc\xbd\xbe[]\xaf\xa8\xb4\xd7",
          "\x7bABCDEFGHI\xad\ufffe\ufffe\ufffe\ufffe\ufffe",
          "\x7dJKLMNOPQR\xb9\ufffe\ufffe\ufffe\ufffe\ufffe",
          "\\\xf7STUVWXYZ\xb2\ufffe\ufffe\ufffe\ufffe\ufffe",
          "0123456789\xb3\ufffe\ufffe\ufffe\ufffe\x9f"]⟩,
    ⟨"cp500",
      ["500", "csibm500", "ebcdic_cp_be", "ebcdic_cp_ch", "ibm500"],
      ofChars
        ["\x00\x01\x02\x03\x9c\x09\x86\x7f\x97\x8d\x8e\x0b\x0c\x0d\x0e\x0f",
          "\x10\x11\x12\x13\x9d\x85\x08\x87\x18\x19\x92\x8f\x1c\x1d\x1e\x1f",
          "\x80\x81\x82\x83\x84\x0a\x17\x1b\x88\x89\x8a\x8b\x8c\x05\x06\x07",
          "\x90\x91\x16\x93\x94\x95\x96\x04\x98\x99\x9a\x9b\x14\x15\x9e\x1a",
          "\x20\xa0\xe2\xe4\xe0\xe1\xe3\xe5\xe7\xf1[.<(+!",
          "&\xe9\xea\xeb\xe8\xed\xee\xef\xec\xdf]$*);^",
          "-/\xc2\xc4\xc0\xc1\xc3\xc5\xc7\xd1\xa6,%_>?",
          "\xf8\xc9\xca\xcb\xc8\xcd\xce\xcf\xcc`:#@'=\"",
          "\xd8abcdefghi\xab\xbb\xf0\xfd\xfe\xb1",
          "\xb0jklmnopqr\xaa\xba\xe6\xb8\xc6\xa4",
          "\xb5~stuvwxyz\xa1\xbf\xd0\xdd\xde\xae",
          "\xa2\xa3\xa5\xb7\xa9\xa7\xb6\xbc\xbd\xbe\xac|\xaf\xa8\xb4\xd7",
          "\x7bABCDEFGHI\xad\xf4\xf6\xf2\xf3\xf5",
          "\x7dJKLMNOPQR\xb9\xfb\xfc\xf9\xfa\xff",
          "\\\xf7STUVWXYZ\xb2\xd4\xd6\xd2\xd3\xd5",
          "0123456789\xb3\xdb\xdc\xd9\xda\x9f"]⟩,
    ⟨"cp875",
      [],
      ofChars
        ["\x00\x01\x02\x03\x9c\x09\x86\x7f\x97\x8d\x8e\x0b\x0c\x0d\x0e\x0f",
          "\x10\x11\x12\x13\x9d\x85\x08\x87\x18\x19\x92\x8f\x1c\x1d\x1e\x1f",
          "\x80\x81\x82\x83\x84\x0a\x17\x1b\x88\x89\x8a\x8b\x8c\x05\x06\x07",
          "\x90\x91\x16\x93\x94\x95\x96\x04\x98\x99\x9a\x9b\x14\x15\x9e\x1a",
          "\x20\u0391\u0392\u0393\u0394\u0395\u0396\u0397\u0398\u0399[.<(+!",
          "&\u039a\u039b\u039c\u039d\u039e\u039f\u03a0\u03a1\u03a3]$*);^",
          "-/\u03a4\u03a5\u03a6\u03a7\u03a8\u03a9\u03aa\u03ab|,%_>?",
          "\xa8\u0386\u0388\u0389\xa0\u038a\u038c\u038e\u038f`:#@'=\"",
          "\u0385abcdefghi\u03b1\u03b2\u03b3\u03b4\u03b5\u03b6",
          "\xb0jklmnopqr\u03b7\u03b8\u03b9\u03ba\u03bb\u03bc",
          "\xb4~stuvwxyz\u03bd\u03be\u03bf\u03c0\u03c1\u03c3",
          "\xa3\u03ac\u03ad\u03ae\u03ca\u03af\u03cc\u03cd\u03cb\u03ce\u03c2\u03c4\u03c5\u03c6\u03c7\u03c8",
          "\x7bABCDEFGHI\xad\u03c9\u0390\u03b0\u2018\u2015",
          "\x7dJKLMNOPQR\xb1\xbd\x1a\u0387\u2019\xa6",
          "\\\x1aSTUVWXYZ\xb2\xa7\x1a\x1a\xab\xac",
          "0123456789\xb3\xa9\x1a\x1a\xbb\x9f"]⟩,
    ⟨"hp_roman8",
      ["cp1051", "csHPRoman8", "ibm1051", "r8", "roman8"],
      ofUpper
        ["\x80\x81\x82\x83\x84\x85\x86\x87\x88\x89\x8a\x8b\x8c\x8d\x8e\x8f",
          "\x90\x91\x92\x93\x94\x95\x96\x97\x98\x99\x9a\x9b\x9c\x9d\x9e\x9f",
          "\xa0\xc0\xc2\xc8\xca\xcb\xce\xcf\xb4\u02cb\u02c6\xa8\u02dc\xd9\xdb\u20a4",
          "\xaf\xdd\xfd\xb0\xc7\xe7\xd1\xf1\xa1\xbf\xa4\xa3\xa5\xa7\u0192\xa2",
          "\xe2\xea\xf4\xfb\xe1\xe9\xf3\xfa\xe0\xe8\xf2\xf9\xe4\xeb\xf6\xfc",
          "\xc5\xee\xd8\xc6\xe5\xed\xf8\xe6\xc4\xec\xd6\xdc\xc9\xef\xdf\xd4",
          "\xc1\xc3\xe3\xd0\xf0\xcd\xcc\xd3\xd2\xd5\xf5\u0160\u0161\xda\u0178\xff",
          "\xde\xfe\xb7\xb5\xb6\xbe\u2014\xbc\xbd\xaa\xba\xab\u25a0\xbb\xb1\ufffe"]⟩,
    ⟨"koi8_r",
      ["cskoi8r"],
      ofUpper
        ["\u2500\u2502\u250c\u2510\u2514\u2518\u251c\u2524\u252c\u2534\u253c\u2580\u2584\u2588\u258c\u2590",
          "\u2591\u2592\u2593\u2320\u25a0\u2219\u221a\u2248\u2264\u2265\xa0\u2321\xb0\xb2\xb7\xf7",
          "\u2550\u2551\u2552\u0451\u2553\u2554\u2555\u2556\u2557\u2558\u2559\u255a\u255b\u255c\u255d\u255e",
          "\u255f\u2560\u2561\u0401\u2562\u2563\u2564\u2565\u2566\u2567\u2568\u2569\u256a\u256b\u256c\xa9",
          "\u044e\u0430\u0431\u0446\u0434\u0435\u0444\u0433\u0445\u0438\u0439\u043a\u043b\u043c\u043d\u043e",
          "\u043f\u044f\u0440\u0441\u0442\u0443\u0436\u0432\u044c\u044b\u0437\u0448\u044d\u0449\u0447\u044a",
          "\u042e\u0410\u0411\u0426\u0414\u0415\u0424\u0413\u0425\u0418\u0419\u041a\u041b\u041c\u041d\u041e",
          "\u041f\u042f\u0420\u0421\u0422\u0423\u0416\u0412\u042c\u042b\u0417\u0428\u042d\u0429\u0427\u042a"]⟩,
    ⟨"koi8_t",
      [],
      ofUpper
        ["\u049b\u0493\u201a\u0492\u201e\u2026\u2020\u2021\ufffe\u2030\u04b3\u2039\u04b2\u04b7\u04b6\ufffe",
          "\u049a\u2018\u2019\u201c\u201d\u2022\u2013\u2014\ufffe\u2122\ufffe\u203a\ufffe\ufffe\ufffe\ufffe",
          "\ufffe\u04ef\u04ee\u0451\xa4\u04e3\xa6\xa7\ufffe\ufffe\ufffe\xab\xac\xad\xae\ufffe",
          "\xb0\xb1\xb2\u0401\ufffe\u04e2\xb6\xb7\ufffe\u2116\ufffe\xbb\ufffe\ufffe\ufffe\xa9",
          "\u044e\u0430\u0431\u0446\u0434\u0435\u0444\u0433\u0445\u0438\u0439\u043a\u043b\u043c\u043d\u043e",
          "\u043f\u044f\u0440\u0441\u0442\u0443\u0436\u0432\u044c\u044b\u0437\u0448\u044d\u0449\u0447\u044a",
          "\u042e\u0410\u0411\u0426\u0414\u0415\u0424\u0413\u0425\u0418\u0419\u041a\u041b\u041c\u041d\u041e",
          "\u041f\u042f\u0420\u0421\u0422\u0423\u0416\u0412\u042c\u042b\u0417\u0428\u042d\u0429\u0427\u042a"]⟩,
    ⟨"koi8_u",
      [],
      ofUpper
        ["\u2500\u2502\u250c\u2510\u2514\u2518\u251c\u2524\u252c\u2534\u253c\u2580\u2584\u2588\u258c\u2590",
          "\u2591\u2592\u2593\u2320\u25a0\u2219\u221a\u2248\u2264\u2265\xa0\u2321\xb0\xb2\xb7\xf7",
          "\u2550\u2551\u2552\u0451\u0454\u2554\u0456\u0457\u2557\u2558\u2559\u255a\u255b\u0491\u255d\u255e",
          "\u255f\u2560\u2561\u0401\u0404\u2563\u0406\u0407\u2566\u2567\u2568\u2569\u256a\u0490\u256c\xa9",
          "\u044e\u0430\u0431\u0446\u0434\u0435\u0444\u0433\u0445\u0438\u0439\u043a\u043b\u043c\u043d\u043e",
          "\u043f\u044f\u0440\u0441\u0442\u0443\u0436\u0432\u044c\u044b\u0437\u0448\u044d\u0449\u0447\u044a",
          "\u042e\u0410\u0411\u0426\u0414\u0415\u0424\u0413\u0425\u0418\u0419\u041a\u041b\u041c\u041d\u041e",
          "\u041f\u042f\u0420\u0421\u0422\u0423\u0416\u0412\u042c\u042b\u0417\u0428\u042d\u0429\u0427\u042a"]⟩
  ]

end SafeFetch.Charset.CodePage
