import Messenger.Domain.Composition

set_option relaxedAutoImplicit false
set_option autoImplicit false

/-!
# Joined letters

The letters of some scripts are joined to their neighbours. Two invisible characters ask for
joining or against it; in the name of a host they may stand only where they change what is seen.

## Main definitions

* `Messenger.Domain.isMark`: a mark that cannot stand at the start of a label.
* `Messenger.Domain.joinersFit`: whether the joiners of a label stand where they may.
-/

namespace Messenger.Domain

/-- The table of the marks on other characters. -/
def markRangeTable : List String :=
  ["300+3f 342 346+8 350+1f 483+6 591+2c 5bf 5c1+1 5c4+1 5c7 610+a 64b+14 670 6d6+6 6df+5",
   "6e7+1 6ea+3 711 730+1a 7a6+a 7eb+8 7fd 816+3 81b+8 825+2 829+4 859+2 897+8 8ca+17 8e3+20",
   "93a+2 93e+11 951+6 962+1 981+2 9bc 9be+6 9c7+1 9cb+2 9d7 9e2+1 9fe a01+2 a3c a3e+4 a47+1",
   "a4b+2 a51 a70+1 a75 a81+2 abc abe+7 ac7+2 acb+2 ae2+1 afa+5 b01+2 b3c b3e+6 b47+1 b4b+2",
   "b55+2 b62+1 b82 bbe+4 bc6+2 bca+3 bd7 c00+4 c3c c3e+6 c46+2 c4a+3 c55+1 c62+1 c81+2 cbc",
   "cbe+6 cc6+2 cca+3 cd5+1 ce2+1 cf3 d00+3 d3b+1 d3e+6 d46+2 d4a+3 d57 d62+1 d81+2 dca",
   "dcf+5 dd6 dd8+7 df2+1 e31 e34+6 e47+7 eb1 eb4+8 ec8+6 f18+1 f35 f37 f39 f3e+1 f71+1 f74",
   "f7a+6 f82+2 f86+1 f8d+5 f94+3 f99+3 f9e+3 fa3+3 fa8+3 fad+b fba+2 fc6 102b+13 1056+3",
   "105e+2 1062+2 1067+6 1071+3 1082+b 108f 109a+3 135d+2 1712+3 1732+2 1752+1 1772+1",
   "17b6+1d 17dd 1885+1 18a9 1920+b 1930+b 1a17+4 1a55+9 1a60+1c 1a7f 1ab0+2d 1ae0+b 1b00+4",
   "1b34+10 1b6b+8 1b80+2 1ba1+c 1be6+d 1c24+13 1cd0+2 1cd4+14 1ced 1cf4 1cf7+2 1dc0+3f",
   "20d0+20 2cef+2 2d7f 2de0+1f 302a+5 3099+1 a66f+3 a674+9 a69e+1 a6f0+1 a802 a806 a80b",
   "a823+4 a82c a880+1 a8b4+11 a8e0+11 a8ff a926+7 a947+c a980+3 a9b3+d a9e5 aa29+d aa43",
   "aa4c+1 aa7b+2 aab0 aab2+2 aab7+1 aabe+1 aac1 aaeb+4 aaf5+1 abe3+7 abec+1 fb1e fe20+f",
   "101fd 102e0 10376+4 10a01+2 10a05+1 10a0c+3 10a38+2 10a3f 10ae5+1 10d24+3 10d69+4",
   "10eab+1 10efa+5 10f46+a 10f82+3 11000+2 11038+e 11070 11073+1 1107f+3 110b0+a 110c2",
   "11100+2 11127+d 11145+1 11173 11180+2 111b3+d 111c9+3 111ce+1 1122c+b 1123e 11241",
   "112df+b 11300+3 1133b+1 1133e+6 11347+1 1134b+2 11357 11362+1 11366+6 11370+4 113b8+8",
   "113c2 113c5 113c7+3 113cc+4 113d2 113e1+1 11435+11 1145e 114b0+13 115af+6 115b8+8",
   "115dc+1 11630+10 116ab+c 1171d+e 1182c+e 11930+5 11937+1 1193b+3 11940 11942+1 119d1+6",
   "119da+6 119e4 11a01+9 11a33+6 11a3b+3 11a47 11a51+a 11a8a+f 11b60+7 11c2f+7 11c38+7",
   "11c92+15 11ca9+d 11d31+5 11d3a 11d3c+1 11d3f+6 11d47 11d8a+4 11d90+1 11d93+4 11ef3+3",
   "11f00+1 11f03 11f34+6 11f3e+4 11f5a 13440 13447+e 1611e+11 16af0+4 16b30+6 16f4f",
   "16f51+36 16f8f+3 16fe4 16ff0+1 1bc9d+1 1cf00+2d 1cf30+16 1d165+4 1d16d+5 1d17b+7 1d185+6",
   "1d1aa+3 1d242+2 1da00+36 1da3b+31 1da75 1da84 1da9b+4 1daa1+e 1e000+6 1e008+10 1e01b+6",
   "1e023+1 1e026+4 1e08f 1e130+6 1e2ae 1e2ec+3 1e4ec+3 1e5ee+1 1e6e3 1e6e6 1e6ee+1 1e6f5",
   "1e8d0+6 1e944+6"]

/-- The marks on other characters. -/
def markRanges : List (Nat × Nat) :=
  Text.readRanges markRangeTable

/-- The table of the letters that are joined on both sides. -/
def joinsBothTable : List String :=
  ["620 626 628 62a+4 633+c 641+6 649+1 66e+1 679+e 69a+25 6c1+1 6cc 6ce 6d0+1 6fa+2 6ff",
   "712+2 71a+3 71f+8 729 72b 72d+1 74e+a 75c+e 76d+3 772 775+2 77a+5 7ca+20 841+4 848 84a+9",
   "855 860 862+3 868 886 889+4 88f 8a0+9 8af+1 8b3+5 8ba+e 1807 1820+58 1887+21 18aa",
   "a840+31 10ac0+4 10ad3+3 10ad8+4 10ade+2 10aeb+3 10b80 10b82 10b86+2 10b8a+1 10b8d 10b90",
   "10bad+1 10d01+20 10d23 10ec3+1 10ec6+1 10f30+2 10f34+10 10f51+2 10f70+3 10f76+b 10fb0",
   "10fb2+1 10fb8 10fbb+1 10fbe+1 10fc1 10fc4 10fca 1e922+21"]

/-- The letters that are joined on both sides. -/
def joinsBothRanges : List (Nat × Nat) :=
  Text.readRanges joinsBothTable

/-- The table of the letters that are joined to the one on their left. -/
def joinsLeftTable : List String :=
  ["a872 10acd 10ad7 10d00 10fcb"]

/-- The letters that are joined to the one on their left. -/
def joinsLeftRanges : List (Nat × Nat) :=
  Text.readRanges joinsLeftTable

/-- The table of the letters that are joined to the one on their right. -/
def joinsRightTable : List String :=
  ["622+3 627 629 62f+3 648 671+2 688+11 6c0 6c3+8 6cd 6cf 6d2+1 6d5 6ee+1 710 715+4 71e 728",
   "72a 72c 72f 74d 759+2 76b+1 771 773+1 778+1 840 846+1 849 854 856+2 867 869+1 870+12 88e",
   "8aa+2 8ae 8b1+1 8b9 10ac5 10ac7 10ac9+1 10ace+4 10add 10ae1 10ae4 10aef 10b81 10b83+2",
   "10b89 10b8c 10b8e+1 10b91 10ba9+3 10d22 10ec2 10f33 10f54 10f74+1 10fb4+2 10fb9+1 10fbd",
   "10fc2+1 10fc9"]

/-- The letters that are joined to the one on their right. -/
def joinsRightRanges : List (Nat × Nat) :=
  Text.readRanges joinsRightTable

/-- The table of the characters that do not keep their neighbours from joining. -/
def transparentTable : List String :=
  ["300+3f 342 346+8 350+1f 483+6 591+2c 5bf 5c1+1 5c4+1 5c7 610+a 64b+14 670 6d6+6 6df+5",
   "6e7+1 6ea+3 711 730+1a 7a6+a 7eb+8 7fd 816+3 81b+8 825+2 829+4 859+2 897+8 8ca+17 8e3+1f",
   "93a 93c 941+7 94d 951+6 962+1 981 9bc 9c1+3 9cd 9e2+1 9fe a01+1 a3c a41+1 a47+1 a4b+2",
   "a51 a70+1 a75 a81+1 abc ac1+4 ac7+1 acd ae2+1 afa+5 b01 b3c b3f b41+3 b4d b55+1 b62+1",
   "b82 bc0 bcd c00 c04 c3c c3e+2 c46+2 c4a+3 c55+1 c62+1 c81 cbc cbf cc6 ccc+1 ce2+1 d00+1",
   "d3b+1 d41+3 d4d d62+1 d81 dca dd2+2 dd6 e31 e34+6 e47+7 eb1 eb4+8 ec8+6 f18+1 f35 f37",
   "f39 f71+1 f74 f7a+4 f80 f82+2 f86+1 f8d+5 f94+3 f99+3 f9e+3 fa3+3 fa8+3 fad+b fba+2 fc6",
   "102d+3 1032+5 1039+1 103d+1 1058+1 105e+2 1071+3 1082 1085+1 108d 109d 135d+2 1712+2",
   "1732+1 1752+1 1772+1 17b7+6 17c6 17c9+a 17dd 1885+1 18a9 1920+2 1927+1 1932 1939+2",
   "1a17+1 1a1b 1a56 1a58+6 1a60 1a62 1a65+7 1a73+9 1a7f 1ab0+2d 1ae0+b 1b00+3 1b34 1b36+4",
   "1b3c 1b42 1b6b+8 1b80+1 1ba2+3 1ba8+1 1bab+2 1be6 1be8+1 1bed 1bef+2 1c2c+7 1c36+1",
   "1cd0+2 1cd4+c 1ce2+6 1ced 1cf4 1cf8+1 1dc0+3f 20d0+20 2cef+2 2d7f 2de0+1f 302a+3 3099+1",
   "a66f+3 a674+9 a69e+1 a6f0+1 a802 a806 a80b a825+1 a82c a8c4+1 a8e0+11 a8ff a926+7 a947+a",
   "a980+2 a9b3 a9b6+3 a9bc+1 a9e5 aa29+5 aa31+1 aa35+1 aa43 aa4c aa7c aab0 aab2+2 aab7+1",
   "aabe+1 aac1 aaec+1 aaf6 abe5 abe8 abed fb1e fe20+f 101fd 102e0 10376+4 10a01+2 10a05+1",
   "10a0c+3 10a38+2 10a3f 10ae5+1 10d24+3 10d69+4 10eab+1 10efa+5 10f46+a 10f82+3 11001",
   "11038+e 11070 11073+1 1107f+2 110b3+3 110b9+1 110c2 11100+2 11127+4 1112d+7 11173",
   "11180+1 111b6+8 111c9+3 111cf 1122f+2 11234 11236+1 1123e 11241 112df 112e3+7 11300+1",
   "1133b+1 11340 11366+6 11370+4 113bb+5 113ce 113d0 113d2 113e1+1 11438+7 11442+2 11446",
   "1145e 114b3+5 114ba 114bf+1 114c2+1 115b2+3 115bc+1 115bf+1 115dc+1 11633+7 1163d",
   "1163f+1 116ab 116ad 116b0+5 116b7 1171d 1171f 11722+3 11727+4 1182f+8 11839+1 1193b+1",
   "1193e 11943 119d4+3 119da+1 119e0 11a01+9 11a33+5 11a3b+3 11a47 11a51+5 11a59+2 11a8a+c",
   "11a98+1 11b60 11b62+2 11b66 11c30+6 11c38+5 11c3f 11c92+15 11caa+6 11cb2+1 11cb5+1",
   "11d31+5 11d3a 11d3c+1 11d3f+6 11d47 11d90+1 11d95 11d97 11ef3+1 11f00+1 11f36+4 11f40",
   "11f42 11f5a 13440 13447+e 1611e+b 1612d+2 16af0+4 16b30+6 16f4f 16f8f+3 16fe4 1bc9d+1",
   "1cf00+2d 1cf30+16 1d167+2 1d17b+7 1d185+6 1d1aa+3 1d242+2 1da00+36 1da3b+31 1da75 1da84",
   "1da9b+4 1daa1+e 1e000+6 1e008+10 1e01b+6 1e023+1 1e026+4 1e08f 1e130+6 1e2ae 1e2ec+3",
   "1e4ec+3 1e5ee+1 1e6e3 1e6e6 1e6ee+1 1e6f5 1e8d0+6 1e944+7"]

/-- The characters that do not keep their neighbours from joining. -/
def transparentRanges : List (Nat × Nat) :=
  Text.readRanges transparentTable

/-- A mark on another character. -/
def isMark (c : Char) : Bool :=
  Text.inRanges markRanges c.toNat

/-- The class of the marks that silence the vowel of a letter. -/
def silencerClass : Nat := 9

/-- The invisible character that asks against joining. -/
def nonJoiner : Char := Char.ofNat 0x200C

/-- The invisible character that asks for joining. -/
def joiner : Char := Char.ofNat 0x200D

/-- The first of the characters that is not transparent lies in one of the ranges. -/
def nextJoins (ranges : List (Nat × Nat)) (s : List Char) : Bool :=
  match s.dropWhile fun c => Text.inRanges transparentRanges c.toNat with
  | [] => false
  | c :: _ => Text.inRanges joinsBothRanges c.toNat || Text.inRanges ranges c.toNat

/-- Whether the joiners of a label stand where they may, `before` being the part of the label in
front, in reverse order. -/
def joinersFitFrom (before : List Char) : List Char → Bool
  | [] => true
  | c :: rest =>
    let silenced := match before with
      | [] => false
      | d :: _ => markClass d = silencerClass
    let fits :=
      if c = joiner then silenced
      else if c = nonJoiner then
        silenced || (nextJoins joinsLeftRanges before && nextJoins joinsRightRanges rest)
      else true
    fits && joinersFitFrom (c :: before) rest

/-- Whether the joiners of a label stand where they may. -/
def joinersFit (label : List Char) : Bool :=
  joinersFitFrom [] label

end Messenger.Domain
