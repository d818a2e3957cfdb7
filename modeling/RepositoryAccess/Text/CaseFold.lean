namespace RepositoryAccess.Text

-- A row pairs `count` characters, `stride` apart from `first` on, each with the one `offset` above.
structure CaseRow where
  first : Nat
  count : Nat
  stride : Nat
  offset : Nat

def CaseRow.readAll (lines : List String) : List CaseRow :=
  (lines.flatMap (·.splitOn ";")).filterMap fun row =>
    match (row.splitOn " ").filterMap String.toNat? with
    | [first, count, stride, offset] => some ⟨first, count, stride, offset⟩
    | _ => none

def caseRows : List CaseRow := CaseRow.readAll
  ["65 26 1 32;75 1 1 8415;83 1 1 300;107 1 1 8383;115 1 1 268;181 1 1 743;181 1 1 775;",
   "192 23 1 32;197 1 1 8294;216 7 1 32;223 1 1 7615;229 1 1 8262;255 1 1 121;256 24 2 1;",
   "306 3 2 1;313 8 2 1;330 23 2 1;377 3 2 1;384 1 1 195;385 1 1 210;386 2 2 1;390 1 1 206;",
   "391 1 1 1;393 2 1 205;395 1 1 1;398 1 1 79;399 1 1 202;400 1 1 203;401 1 1 1;403 1 1 205;",
   "404 1 1 207;405 1 1 97;406 1 1 211;407 1 1 209;408 1 1 1;410 1 1 163;411 1 1 42561;",
   "412 1 1 211;413 1 1 213;414 1 1 130;415 1 1 214;416 3 2 1;422 1 1 218;423 1 1 1;425 1 1 218;",
   "428 1 1 1;430 1 1 218;431 1 1 1;433 2 1 217;435 2 2 1;439 1 1 219;440 1 1 1;444 1 1 1;",
   "447 1 1 56;452 1 1 2;452 2 1 1;455 1 1 2;455 2 1 1;458 1 1 2;458 2 1 1;461 8 2 1;478 9 2 1;",
   "497 1 1 2;497 2 1 1;500 1 1 1;504 20 2 1;546 9 2 1;570 1 1 10795;571 1 1 1;574 1 1 10792;",
   "575 2 1 10815;577 1 1 1;580 1 1 69;581 1 1 71;582 5 2 1;592 1 1 10783;593 1 1 10780;",
   "594 1 1 10782;604 1 1 42319;609 1 1 42315;612 1 1 42343;613 1 1 42280;614 1 1 42308;",
   "618 1 1 42308;619 1 1 10743;620 1 1 42305;625 1 1 10749;637 1 1 10727;642 1 1 42307;",
   "647 1 1 42282;669 1 1 42261;670 1 1 42258;837 1 1 84;837 1 1 116;837 1 1 7289;880 2 2 1;",
   "886 1 1 1;891 3 1 130;895 1 1 116;902 1 1 38;904 3 1 37;908 1 1 64;910 2 1 63;912 1 1 7235;",
   "913 17 1 32;914 1 1 62;917 1 1 96;920 1 1 57;920 1 1 92;921 1 1 7205;922 1 1 86;928 1 1 54;",
   "929 1 1 80;931 1 1 31;931 9 1 32;934 1 1 47;937 1 1 7549;944 1 1 7219;946 1 1 30;949 1 1 64;",
   "952 1 1 25;952 1 1 60;953 1 1 7173;954 1 1 54;960 1 1 22;961 1 1 48;962 1 1 1;966 1 1 15;",
   "969 1 1 7517;975 1 1 8;977 1 1 35;984 12 2 1;1010 1 1 7;1015 1 1 1;1018 1 1 1;1024 16 1 80;",
   "1040 32 1 32;1042 1 1 6254;1044 1 1 6253;1054 1 1 6244;1057 2 1 6242;1058 1 1 6243;",
   "1066 1 1 6236;1074 1 1 6222;1076 1 1 6221;1086 1 1 6212;1089 2 1 6210;1090 1 1 6211;",
   "1098 1 1 6204;1120 17 2 1;1122 1 1 6181;1123 1 1 6180;1162 27 2 1;1216 1 1 15;1217 7 2 1;",
   "1232 48 2 1;1329 38 1 48;4256 38 1 7264;4295 1 1 7264;4301 1 1 7264;4304 43 1 3008;",
   "4349 3 1 3008;5024 80 1 38864;5104 6 1 8;7300 1 1 1;7304 1 1 35266;7304 1 1 35267;",
   "7305 1 1 1;7545 1 1 35332;7549 1 1 3814;7566 1 1 35384;7680 75 2 1;7776 1 1 59;7777 1 1 58;",
   "7840 48 2 1;7936 8 1 8;7952 6 1 8;7968 8 1 8;7984 8 1 8;8000 6 1 8;8017 4 2 8;8032 8 1 8;",
   "8048 2 1 74;8050 4 1 86;8054 2 1 100;8056 2 1 128;8058 2 1 112;8060 2 1 126;8064 8 1 8;",
   "8080 8 1 8;8096 8 1 8;8112 2 1 8;8115 1 1 9;8131 1 1 9;8144 2 1 8;8160 2 1 8;8165 1 1 7;",
   "8179 1 1 9;8498 1 1 28;8544 16 1 16;8579 1 1 1;9398 26 1 26;11264 48 1 48;11360 1 1 1;",
   "11367 3 2 1;11378 1 1 1;11381 1 1 1;11392 50 2 1;11499 2 2 1;11506 1 1 1;42560 23 2 1;",
   "42624 14 2 1;42786 7 2 1;42802 31 2 1;42873 2 2 1;42878 5 2 1;42891 1 1 1;42896 2 2 1;",
   "42900 1 1 48;42902 10 2 1;42931 1 1 928;42932 8 2 1;42951 2 2 1;42956 8 2 1;42997 1 1 1;",
   "64261 1 1 1;65313 26 1 32;66560 40 1 40;66736 36 1 40;66928 19 2 39;66929 5 2 39;",
   "66941 7 2 39;66957 3 2 39;66965 1 1 39;68736 51 1 64;68944 22 1 32;71840 32 1 32;",
   "93760 32 1 32;93856 25 1 27;125184 34 1 34;"]

def CaseRow.covers (row : CaseRow) (n : Nat) : Bool :=
  row.first ≤ n && (n - row.first) % row.stride == 0 && (n - row.first) / row.stride < row.count

def CaseRow.partners (row : CaseRow) (n : Nat) : List Nat :=
  (if row.covers n then [n + row.offset] else []) ++
    (if row.offset ≤ n && row.covers (n - row.offset) then [n - row.offset] else [])

def casePartners (c : Char) : List Char :=
  (caseRows.flatMap (·.partners c.toNat)).map Char.ofNat

end RepositoryAccess.Text
