/-!
The configuration schema that the reference pages and their navigation are built from,
in packed form (see `Dashwright.Reference.unpack`), stored in blocks of lines.
-/

namespace Dashwright.Reference

def schemaBlock01 : List String := [
  "!K$defsK:!KActiveselection1K:!KadditionalPropertiesK:false,Kp@bU!Kfillcolor@#ZOnyOfK:[!Ktype",
  "K:KstringK&,@aSnullK&],KdefaultK:null,KdescriptionK:K @#vO<br>Sets the@aP filling@aOa@&XO @&",
  "YS' interior. K,KtitleK:KF@%mS&,Kopacity@%x`number@%xOpatternK:K^QQs*columnQQ(QQs*(.+)QQ)QQ[",
  "[0-9]+QQ]QQs*$K,@'i#`@$yP between or equal to 0 and 1@(YW@&lQ of@(V`@'yWO@'lQ&&@cT@-f[@&aSob",
  "jectK&,@sRhape@.Y%zhape@.U'whape@.Qs@-YP@-z_spectratio@-z|x@)y%egreater tha@*QY<br>@)RVXK&,K",
  "@.k%f@&muYK&,Kz@&m&cZ@2]X@1iV@2]_xis@2U|match@YP@(x[boolean@(y$o@$zQ<br>Determines whether o",
  "r not@9rOx \x7d y axes generated by this dimension @'bO. Equivalent to sett@BfR`@(WQ` axis a",
  "ttribute in@oOlayout with@DOQrrect@#PPid@<iWM@)wQ&@'|R@GV#kenum@'YQ, one of ( QKlinearQK | Q",
  "Klog@XQdate@YQcategoryQK )@BeW@&cOtype for@)TY'@)sVx@CvO@*^P. Note tha@*xP@#hO`type` values ",
  "set in@)URtake precedence ov@3nO@*[V@)aWType@3jX@2vO@3c^Ba@#!ZP@3au@+YRconstK:KbarK@*X[QKbar",
  "QK@6|Z@%cP,Kalignmentgroup@-O#m@#[P@+hQ several traces linked to@*gOsame pos@'nO@*uPor@3RPin",
  "g@4PP@zV@&UX. This control@5mTbars compu@,|Oeir@$ZSal range dependently or in@`U@,aWA@(qX&,K",
  "bas@3za@C|%Oor @4gQical coordinate@+_X@(yOr@(jO bar base is drawn (in@+^Yunits). In QKstackQ",
  "K or QKrelativeQK barmode,@-[R@5oOset@0yOseQK will be excluded@6wO@$kPin QKoverlayQK mode in",
  "stea@=OXBas@2UOcliponaxi@FV&Qthe text nodes are clipped ab@;|Ohe subplot@=dQTo show@#^[bov@=",
  "sQl@$YOand tick labels, make sure@G]Q `xaxis.layer`@#RO`y@aVto QKbelow@,cQQK@*tWC@*lT&,@<ePr",
  "aintext@GT$Xinsid@FlRout@]Uboth@YQnone@GTRC@%pR@)tPiz@#oO@)bO@#pP or @#mQ a@3xOto be no larg",
  "@#*_R@4iRitself@(]X@'|W&,Kcustomdata@(]X@0xYquery@0wZs*$|@1jf@1^citemsK:!@##VSKarray@*j#Qdat",
  "a @#`O<br>Assigns extra@kPeach datum@C]Qmay be useful when listening to hover, click@0[O@#NV",
  "S event@#!ZV, QKsc@(oOQK@;SRalso appends @)xT @'hO@#*PRmarkers DOM elements@+iW@+WT&,Kd@#CV%",
  "e@#)|Wx@DrXep. See `x0` for more info@1PWDx@'ZO@#Cq%e@'ZWy@'Zby@'ZiyK&,Kerror_@,lY$refK:K#/$",
  "defs/BarE@vQ@%|#P@#.nP contai@2iO@<nO@%aQ@$&tQkeys@3_Pd @AnO.@#-iP@%lS@+PY@%lc@7k#R@%l#_@7XO",
  "info@Dm#mflaglist@#'kQ. any combina@9^Oof QKxQK, QKy@UPz@UPtext@XPnameQK joined@#AlPa QK+@#'",
  "pRall@YR@EsQ@ZOskipQK@'UO@NuWich@;^P@/aOrm@%SPappear on@=[P. If `none` or `skip` are set, no",
  "@#`Wis displayed up@#hR@'eOBut, i@#pSis@#eP@?cT@zO@?_Q@$XPtill fire@#*dXH@+gS@+tRlabel@/hk@#",
  "YO@yP@/k$jtemplat@#Jgl@JbR@j[@Jq#_@#lP or@JvP of@bQs<br>T@%jQ@vRused@;vOrend@,]O@'XO@-[Vthat",
  "@.rZ box@#JsXis@#5wPoverride `@5rS`. Variabl@#0^Qinserted using %!v@nQ&,@%VOexample QKy: %!y",
  "&QK as well as %!xother&, !%_@Z]_@[O@ZR. When showing@&yO@$[O@#FwRpoints, QK@#TP@#:dUadd@#G^",
  "Rose@6mPdifferent x@#=]Ss from@)SOfirst@#wP. An underscore bef@/ZOr after QK(x|y)@$lWadd a s",
  "pace @*jRside, only@#'TP@*ZOfield@5lOhown. N@HWO@)zP@,QP@)|Td3-@bP's syntax@*bU:@mS@*l[Price",
  "@*pO:$.2f&QK. https://github.com/d3/@#gS/tree/v1.4.5#@eS@#|Odetails@&vP@%pSing@%_Q. Dat@.`Q@",
  "&a^time@&ff|@rX@&k[Da@/^O2019-01-01|%A@&pi@#qU@&uQ2.2.3#locale_@&yedat@'Q`The @%zRs availabl",
  "e in@4cQ@:jR@BwPthe ones emi@(QOas@A`P@#3oP@9PPbed @6^Rlink@&nSplotly@&nOjava@:PP@eQjs-@CPP/",
  "#@VO-data. A@$0mSly, every@$2pT@#MsQcan be specified per-@3PO (@&OS@:`Pre `@<XOOk: true`)@dO",
  "@'lS.@(TU`value@#FdQ@DcO`. Anything@CaRed in tag `<extra>@HUO@ITT@#BfRecondary box@-tZ@#]Q!f",
  "ullData.name&</@fPQK. To hid@*pP@#nW completely, use an empty@%_W@#nR`@Jk]@FgS@FxT@#JYm@Ft$j",
  "Sets@EcQtext@#>WTassociat@#(UReach (x,y) pai@#&[Pa singl@HXR,@$7xT@$lQ@GnPs@$ArPall@4pRa@C^Q",
  "@#iPn@%eZ@#lP@#BxPare mapp@-cPorder@$:^R@3rOtrace's@%fQ@#8gT@$)bPbe seen@$1eQ@ItV mus@#$lS a",
  "@#-yS flag@,k_@#NePid@$0nY@#N^&Uid@$.xQ to@#N`Yese ids@5`O@#+cTstanc@+kO@,ZU du@-VPni@#&XP. ",
  "Should@MrO@,s[s, not@#CmQs@1QOny @LaO ty@%CzYIds@*dOnsidetextanch@%Mp#o@$0bcend@$/rQmiddl@$0",
  "^Rstart@$0SR@#9PUi@$/xP@1mPkept at cent@$DOP@#YO/end@)QRin `text@#&mR`@$3PVmod@(PY@'vZ@(^Wfo",
  "n@;dY@#7VYO@$3RP@|RFont@#uTfontT@VQ1@#7t$a@$!YSfont@#3yT@(`O` ly@#.zPs@CwRbar. K&,Klegend@%)",
  "d$R@%fP@$cP @$dO@%3ST@;SO. T@$1lPpart@']R@?SO@#WWhide/show@##WP@rQtime@#/nQoggling@#XR@9SO@-",
  "jWL@'cU@'rX@qQ@#Coi@#bU@#RP@#Cu$e@&QPrank@$1Z%q@+QQrank@-d[I@IeP@,|Rs@LiPsmaller@#UO@9ePpres",
  "ented on top/lef@#;`P whil@#>^Q`QKreversedQK `@$pP.@$bO@KbO` they@#tOon bottom/righ@#nP@#2uP",
  "@'RQ@&UQ@&TOis 1000, so@#._Pyou can use@%pQless@$KaP1000 to place cer@L^O@NrP@#AmQall unrank",
  "e@1bQ,@'wO@#nP@&(gW@#qRgo@#BtQ@#_]@2r^@.`O@.nSwidth@&.R&V@/^S@&iO@%8gPx or fraction)@4rR@0RQ",
  "@/zZ@(h[@(YP&,K@$KnP@9TkM@uP@8w$eme@%*lZ@%DT%|@%*mXmeta@$:qX@#6tY@,PT@#DZW@JsOin various@#8a",
  "P@#EZT. A@#EgTsuch a@#iR`name`, graph,@&2jQnd@'&zPbar `@.]O.@LsO, annot@%fP@MYQ`rang@',cQor`",
  ", `updatemenues@#EqQsliders`@#E|R@%lQll support `meta`. To acc@:aPe@%oR@kO@&.sRin an@&6^]@Ka",
  "Prace, simply@<YO`%!meta[i]&`@%L]Q`i` i@$VPinde@4eOke@'&US@$eQitem in ques@#2tP@%fU@%bV@&1|T",
  "@*`T@#GfP`%!data[n[.@$|#T@)VOn@yS@$HSRdex@&;PXe@%3TPoffse@#.UY@3e#h@#>v#z@7k]@#L_Z@jS@#?k#_@",
  "6yT@#=PS@#<pQ@AtOhif@AvQ@&+WS@&,TX@&,Osgroup@&+li@+qP@&+n#eO@-eP@-oS@&;t%u@&RU@*^Qbars@#5iW@",
  "#qS@AlU@)ROline up@(T^@#4sS@'B_&w@##W]@'BWS,Korien@DPP@#MW$Xv@#LuQh@'&O[@%UU@&YRbars. With@#",
  "]Q(@#[O)@$0cP@EdO@zReach@6^Ospans alo@%+rQvert@MsO(horizontal)@(UX@'wU&,@&2OR@#MY'O@&5jR@#MZ",
  "W@#!dPed@#/UkS@wR@#/W$e@%nR@$+fP@#/b&^@HXO@(UUinteger indice@>dO@'gR@$CbSHas an effect@%3dPf",
  "or@GbX@#+jQ@&8_S@'8eW@$LsS@KSPme@4mO@dR@&9gT@JwT`un@%QR@%*uQurn@#J^Pfo@#DmP@%:_R@#WOas,@$:fU",
  "non-@$bP@#.RQ@$iPno@$cUall@$gV@$eUnd@$vXstyles have no@'zQ@8[W@1[R@.eQ&,Kshow@#AxP@'Lc&Wa@#N",
  "iP@'IsPspond@&DtQ@#;kU@%>|R@'KVS@$%vP@(gW@(TT&,K@%*[%g@%*U&lIf@%)y^@9_Qs@%)uZ@3cOQ@%3zTQK is",
  "@-xOset@%[Ose@(eT@#1VRsee@-lS@%1hP@%&WP@'N|X@%+fQ@$JOPg@$=PZ@Aw%O@%gO@()kX@,uO@#)oR@'8WT@.QP",
  "respect@+QR@J|OF@%>lT, a `tick@#iO` of -90 draw@#DZQ@#tU@#&PRly@#'oSautoQK@';oS@',uPautoma@z",
  "Q be rot@1`Oto fi@(2fUmaximum@'5sPin@#)rQ@+XY@+PP@+^Q@#'l&q@#'UP@%,gV@<Z$l@#4UU@<_V@fTs@'B^t",
  "@.ZQ@'B^ZS@&%RQ@$JPQoc@#5eW@(WR@$PU@&7eT@#.fQ@iP, nex@2hV end (@0RRand scaled if needed).@%p",
  "W@$O[@jQ@$Pb@#q[, un@$IWQer@H`Oan@##xPbar stack@$MaQhis one@<zO@<`P@DlOgets push@A`O@$L_P@5_",
  "Tr@(kOo@#G_T@'rW@%gR, but i@#<oS is too@%#pP@'yOno@gR@%^^@%WTis moved@'yR@CkO@,QR, no@$5tQ@F",
  "zP@7Y[@1uS@2XQ@&Mk&n@.SO@&MpX@LfR@&Mmitext@&Ml#g@&GU+dE@&CW$u@7QY@&=rVuirevis@HYc@#Il%tC@)&Z",
  "Rpersist@)/pPf some user-driven chang@$:[Ttrace: `@(?XTrange` in `par@$dOs`@#JSQ,@'4rV@$QO`e",
  "dit@5`O@+bP modifi@JhP@%*xT@%*rP@+]P@%*fR.@+ZO`. D@'xP@%_O`@%$_P.@+_T`@;XV@GvP@&oV@#7XP@%(rT",
  "@'RRare@),hRl@)?`P@$QQ`@0wU: `@$8uPvisibl@'HYP@#X`.@#CrQ@%cU,@#KqT@?QP@#af@#MZS@#aU@(SX(x|y)",
  "` (@%*nPib@%JpSconfig: !@*XX&`)@$feedit@)ZUT@(kO@(aVtr@KqPby `uid`,@(#sQ@$(`Palls back@8gO@%",
  "+TT if no@#TP is provided. So if your app@8iOadd/remov@/xQ@%KnSthe end@#)uSdata`@IdP,@.pP@)A",
  "vS@%3ST has a@'AXU@%[O,@%NvS@($cPpreserv@3Ta@%lP giv@$?PQ@.zQ@&oQ@$-oPtay@#<yQit as it move@",
  "##|XU@:hT&,K@$*VT@$9`kU@yT@$9b$e@2rQ@$JP$Vtrue | false@)NuP@4tOonl@)NbS@*)Zg@$+YV@&TQ@#-`Q@#",
  "kV@$$OP@xSnot@%/dP@#0`P@0iO@#(UP@.xO@&<[U (@1sR@0OT@nSself@$oU@$KhXV@)^Q&,K@&,[^@%<^(l@&/rsb",
  "ar@&/vV@%<a`@+aUW@&/WRx0@$KS&^lter@cOto `x`. Build@2YOine@%.gP@##vP@),`Vs. U@(2]R`dx@%NvSx0@",
  "%MySstart@'KyP@$oS@IQOdx`@pQe@%;oXX0@)qO@'<j&[@)3^`@EPXX@']O@*$od@%Gy#X@)NfPid@%RSa re@JfOce",
  "@%?lS@$?WW@%pW@+eOa 2D cartesian x@3mO@?mQxQK@#7`P@&LsRvalue@%;lQ@#nX@$oO@#,sV@'cO`@#lR2@BUR",
  "@#Xo2@#)RQso @+CRYX@*#cRxcalend@*?aQ@%Co$Schines@*HPSoptic@*HiRiscworl@'BmRethiopian@_Qgr@6s",
  "O@_Shebrew@[Qislam@#nSjalali@[Rul@#WTmay@ZSnanakshah@yRnep@#YTpers@#ZTtaiw@[Tha@uRummalqura@",
  "%Hc[@)sR system to u@9VSx`@#FOP@(9YP@+ZV@+QS&,Kxhover@#FtP@'>b$S@(0WU@#IbUrulefor@&PO@#NTR@o",
  "Vmini-languag@)5rSare very simil@*,dP@)#ZPin Python@$JYP@HeQ, see:@$%u#T. A@'(zQd@3lO@#mi@$!",
  "rp. We add two@%*zQto d3's@$!yWer: QK%hQK@$vOhalf@#/kRy@#)dSdecimal@G|R@#FZUQK%!n&f@#aQ@'-wR",
  "al@(>xQ@#5bQn digits@%$UYQK2016-10-13 09:15:23.456QK@%!VQick@$'dQQK%H~%M~%S.%2fQK would@(D_R",
  " QK09~15~23.46QKBy@<|S@&*dS@$,za@*=sQ@1_U@$%|XX@1yV&,Kxperiod@#$e&^Only relevant@)0qR@+4uXis",
  "@+7kS. @#+fUs@+7RP@(QP@#+hS@&!UP milli@-jR@2aQ@$?SS@$ZPx0@GvQWhen `x0@#mP@$hOround@&gSf week",
  "s@FxP@xS0` b@,yT@-uPbe on a Sunday i.e. 2000-01-02,@$&TPwise i@#UUat@tT1@-dX@-SR@-`T@-_'j@-U",
  "qQKM<n>QK@-RS@-QQSpecial@'5eU@$CYR@*+wP@#XQc@+XRus@%9lPdecl@)4rR@.PTmonths. I@#)WQcase `n@(N",
  "dQbe a@%sQve@&1QR@,q_@,pU@+<aS@#%z$X@(E`R@(Ey[@(FdP@NmO@+m#W@&kS@(MeZ@+VY@(W]@'yT&,Ky@#Aw&ly",
  "@#Awg@*GOV@#AwXy@#AwSy@#Awoy@#AwbY@:xO@'.[Y@#Aw&V@(yY@,BlZy@#Aw$x@%pW@#Aw_y@#AwVy@#Awg@#nX@#",
  "?m[@'cO@#AwRy@#AwS@#Xo@#AweY@#AwRy@#Aw*`y@#AwcY@#AwVy@#Aw%Qy@#Aw-y@,0]P@#AwdY@#AwYy@#Aw)Zy@#",
  "AwXy@#Aws@xR@#Aw$VY@#AwU@-`Q@#Aw(t@#%yR@#Aw%T@,qQ@,pU@#Aw'Z@+VR@(W]@#AwU&,KrequiredK:[@'jP]@",
  "-*aVr@-=ib@,2eR@-=py@#8rP@#;n&d@fO@(%vYhe length of@&&XPerror@'A[PV@IgTplo@IeO@-5OR@&8kRunde",
  "r@(=oP@#,v[A@&^Q@&gPminu@+$r&]@)h#V@;`R@*0qP (left) dir@(5zQfor@(Laa@),cP@*y#c@*pP&,K@/#o$Ws",
  "tok@/#uR@)%QR@(SR@8nXC@/#`Rcopy_ysty@&/]b@(9q%T@&bXpy Y@&XP&,Ksymmetric@.;p&[@+vT@(EVP@+!nU@",
  "2wOin both@2WU(top/@2uQ@2dWbars, left@*CVQfor @2xT@.V]S@)aS&,Kthicknes@)&s%f@&0er@&mS@*>`Q@*",
  ">SS@4YbT@'qS&,Ktraceref@(P`@#&hQ@(Q$o@)+fR@/$duT@&qR@'PU@Fz^@'U&_@CSS@.Lk$]percen@#/[R@+KuQ@",
  "^Rsq@#/vSdat@$/[S@9qUthe rul@#5yT@.LaR@1l[If@$VU`@#CZPbar@:ZQ@JXPof a@+NuR@$<`Q. Se@'!YQ@hSi",
  "n@'EXR@#zQ@&dS@#z]@NpT to a @zQag@$eO@LY[@$dS@wU@$f[@(^P@$ck@?aOqu@&wQ@Np`@#qO@)uP@(Wase@(IS",
  "Qdata@.5nParray@'JjY@.NnQ@%pO@?U&`@*(WSei@.>TS@+TU(if@#=kUset@.;]P@-rS) o@#VP@.rS@#Tb@3RT)@)",
  "9r_@JeR@*7QS@CPbV@*hO@*qR@<te@*v)i@#7]#^@,ZZ@COS@'?wg@#.Q%q@*RQof@(yW@'AsU@'>Qt@+I_&^@#+zScr"]

def schemaBlock02 : List String := [
  "oss-bar at@#3tPend@8jk@';VQ@/EgU@$(`U@$)Qg@$'vP@$)Q6t@$$e#:ly@$$eb@0*tU@$$hzlig@+:n%qlef@#%`",
  "Rrigh@ZR@+3fQ@'5cX@#:qU@&4xW@+2PSconten@KdPi@0*SR@)_O@0*YP@,<s^@+4oQ@zV@#nO@-!lPmore two@*-i",
  "S@17]P@1H`ZK&,Kbg@#Ijp@*h#x@#JPQ@*cU@aO@,1eUhe backg@'#OP@#KTW@,*uV@./WY@1DhW@'VQ&,Kborder@'",
  "f%k@,3aP@'bs@1JOX@'WU&,K@,'_&g@4UXs@,'dPname@LpP@#C]$]@$7s$U@&_]@0a#_@#F`R@0cV@cQ@*6Sf-@-ByX",
  "@.N[Tng@HZQ@'+sTcharacters@HmS@6nPnam@.3zS@2V[al@-M]R. -1 sho@,:eQwhol@#_Qregardles@JOO@$tP.",
  " 0-3@#QU@0COP0-3@%RU@(1|Pan@'pS>3@+KUP@2)hS@$[Uif it i@/%ZVthat many@#wW@,(sQ@#OQonger,@#zPt",
  "runc@(D|R@1TT - 3`@#fU@%aPd@%eOellips@'+lYN@2dT@NlY@MzU@Noa@/5t[@3Irz@:_kG@$PSfont@:mY@:ZR@:",
  "qXRang@#POFontLabel@|Oick@;Z$m@-QO@/?tT's @&sO@;qO@,AqT@(4n$S@$lP@/*pX@2KTQ@-&g[@-tX@-R[@-za",
  "@/*mQ@#-jzuto@I^Pca@#<Y&R@4*nS@&cO i@(5YP@=iPpalette (`@']X@,(mS@#GTQ@wRd@$UR@+CRP@/3ZP.@#ZT",
  "`@#.Ucin@#PX@#HhVa nume@(#VP@C`O. In@'KRQ@$QU is un@,-YTor @&TY@)0SPru@,FeP@'W[@-4iRchosen a",
  "ccor@#JuR@(tR@+-VR@CsQ@$wP@+E^Q@,.rPll@'NVS,@]Oneg@%-bPor mix@1GTYA@/TX&,Kcaut@2#|a@%)l%s@#-",
  "nPdomain@,#ePmpu@-CzS@-6wYinpu@1.dQ(@-#pP@-zZ@0PSbound@3>nS@tSmin@,-cQ@aSax`@0S#e@,.xW@9bO`@",
  "('bP@$uk@$<^Rby@$=oPs@(-QYC@-TO&,Kcma@2B^%rupper@*xP@$!gS@-XU@8j#fValue s@0LQP@%6sXunits a@0",
  "FRP@#vXand if@-LSP@+bX@(6YRset@)%YR@+OXmax@*|Pi@(An%e@*|Wmid@,JoQ@*y^ by scaling@1g]/or@1jY@",
  "3.zPequidi@$;wP@.1zR@2%WQ@,o$m@$sP@.;US@6^Yauto@$mO@7PQ@,oYid@,oQ@,Nl%e@0AfXow@5o%vax@5ooin@",
  "&)Zt@$)T$q@&wP@iP. It accepts@%#cRa@-2WRc@#sU@.<nU@#%dR@-2`S@.<iQ@KaQ@#,xU@&0nZma@4;nPmin@)'",
  "rR@50^R@$SPr@#UW@Hxk@+mP@(5rclor@*2U$c@0rOshare@$6gR@)$UPR@qR@-1aRse@vZ@&7tQQ@&WT@3*QP@^S2@_",
  "Y3QK, etc. S@4K_P@$3TR@$Se@#&iQ@4KgT,@%>lP@*2aS@$SS`,@c]2`@$gQ@-1xTmultipl@7tR@-`Os@-?aR@0$U",
  "^@(ZV@+xZ@4(uT@-/RP@0J^q@#^Oba@0Jf$g@#C[j@&AU#]@#|O@5JQ]@fO@?u#fT@7_X@):_S@8qR@(`U@`Os@8oO@^",
  "O normalized@%<TQto an rgb, rgba, hex, hsl, hsv, or nam@0zS@3;xRAt minimum, a@$VS@2VQ@FuOst ",
  "(0)@36nPigh@_O1)@*)OV@)6|R@*,VY`[[0, 'rgb(0,0,255)'], [1@dQ255,0,0)']]@0J]P@-<OQ@#9UV@IfV@#I",
  "zQn@&aRpace@0GPQ@=Qi. @+)URively,@#GiX@4.SQa@#FfSn@/1]U@$wQfoll@3-|Plist: Blackbody,Bluered@",
  "VOs,Cividis,Earth,Electric,Greens,Greys,Hot,Jet,Picnic,Portland,Rainbow,RdBu,Reds,Vir@#qOYlG",
  "nBu,YlOrR@#GpX@6[O@#GlSlin@1KPiLine@$2W$b@7[O@0:z`@-2k(m@0>d#U@%Ck[@0>cU@(|S@.mfFill@wQP@UP@",
  "%,d$k@%PQ@%>mR@#+vT@$?VP@2$yQ@$9b%oR@%zQ@#8pU@BsRif tru@HR#gI@#qP@#L`Zwill@&Ek^last@%YQ@*RQ@",
  "$5dQ@#/y[@#db@%)fP@#5OQ@0^U@'cR@=QRshow@$DU&U@00ZR@1G|T@3;WW@%B`Z@,a#d@01`Y@)fQ@$NUX@$MZQ@$M",
  "xg@#.ZS@$NSy@&$Wr@'Ks#_@%JSSp@4,OPare@(!VX@&!S#T@%b#_@5?|S@2j^@%LzY@%aP@&<^&t@$FORrder enclo",
  "s@(.xPis@,SQ@1+gP@(gZ@29USdtic@2M^%e@6*nu@,6fR in-@,.[Sick@*MaQis@#DyQ@,8sTtick0`. M@+'k]@$t",
  "P, or@$&yPal@/GOR@40OUto@6B[S@0?OP@6B^Q@6$RPI@$%rQ@+$iZ@#SO@0$eR@%kO@#KhR@4.bP10^(nQ@+^P)@,<",
  "cQn@2.YSick@%hQ@#;OY@6%RQa@rPmark at 1, 10, 10@SP0, ...@xO@$VO to 1@6'zPet@#]Ts@#^S@#YQ@#Z_2",
  "@#Ze5, 25, 125, 625, 3@YO@#f[log_10(5)@*WO0.69897000433.@)vShas@2%QS@*|R@#BVP; QKL<f>QK@1/PQ",
  " `f@*SO@,`^gives@*_Q@,FWPly@#?uP@2AxQlue (but@GkO@+7ZR)@*SW@.qR = 0.1, `@&hO` = QKL0.5@2,|Rp",
  "u@(ZP@(UO@yO0.6, 1.1, 1.6@$(YP@60bRpowe@2'xP10 plus@0.]Q@,$XP@#2jR@#DjPQKD1QK (@oT@9`OQKD2QK",
  " (@JgO2@0sO5).@%ySis ignor@K|Q@#hQ@1mPD2QK@1fe@2_P@1gQyou@4,bSver@%5SPtim@3kO@+=uV@1Sa@%5TPt",
  "erval@,D`T@(mOto one day,@'KzP@)sQto 86400000.0.@5kUlso@.UP@+?kX@+?[S@-WV@,|Qby@##YP@+?VY@+>",
  "vk@2qU@+9]S15@)!PQ@7bOthird@#sP@&]Q@*fQ@9yO@+L`R15@*bQ@&|UQKM3@4?sQ@$ZT@#xP4 yea@,6bP@(UWQKM",
  "48QK@5LxW@DfO&,Kexponent@,<q#s@(2dc@0GZQ| QK@VZ@2gO@(2nR@,ChRb@(2i^a@,>XZ@$,dS@:UO@&vR@/jZco",
  "nsid@&%]Q@,pQ1,000@RR@0?wYi@0?rS as@y`@vO1e+9@_QE@_OE@_S@&qQ, 1x10^9 (@GeO9 in a super @)OP)",
  "@#SQSI@#POG@^QB@]OB@N|WE@+xX&,Kle@0-e%f@#(br@)4aT@#1vTbar@6>VQeasur@2KzS@#J`Rdd@$2QQ@'D`S. T",
  "hat i@,4iQ@#jT@)*XR@&;xS@^Ominu@#pY@)*zQ@#pP@3BpWn@*^Qmod@(E|$Y@,GoR@4YRixels@/FXf@#.xX'@'YS",
  "(i.e.@$#yP@)dQ@#IWQ@|Pvari@0LYP@(+cS)@#AfRin@%4tQof plot@%aX@#JvP@%eR@#+_P`len@<SO@DiR@(FzQ@",
  ")gX@)`O&,Kmin@7eR@2U&VHide SI prefix@<iO10^n if |n| is@$-aP@+eP@#-kR@2jO@NpOh@#JoW@%FZP@-$dT",
  "@MuQSI@65XRB@70dYM@)`U&,Kn@FfO@)-a&X@1=uX@1JhR@#!OT@KmP@EqRparticula@%0QRT@8JsPu@-.dT@#VS@&C",
  "WZ@1MhW@&%qP@'2yT@%cV`@)sP@&HXd@+uOmod@(AkY@(*_P@'2VX@+dP@3-f$g@79dRv@3-fo@0EOS@3+miline@$%u",
  "$tO@%RV@%cT@(AY&z@(XS@(R_@$%bSseparatethousan@5CiZ@$<p%[If QKtrueQK, even 4-digit@(!]T@#NcP@",
  "&zPd@3$oX@'cZ@$CeQ@H^h@5w#p@7*kP| QKfirs@(B|Rla@YS@2.jV@'cO@#TO@'/[P@#4oS@'YPhown besi@#*]Qi",
  "r significand@)GUR@$_Q@6C]Qthe@#jS@%;[Sirs@$$XQ@6ClT@0I_P@%cO@#^fla@#]b@2)QU@&TUppe@:iYS@*qV",
  "@+TQtick@(*TP@'3h&[@2G^Vare@1#]P@'t[@'dU@'vU@#%sP@1Q%j@'W[@%%RS@7<RQ@&iP@0wd@0gX@#ai@0y[@0iW",
  "@#_[suf@#_T@0|R@#PO@#yP@&%xQhidde@+Za@*uQ@+ZU@#wP@+Z%YSame as `@/TX` bu@*HwP@'lO@&^P@/&oY@'a",
  "R@&|Q@*Hz&v@#JWv@8BjS@#HoT@/OP@(?XP@37i_@*JXW@[R@#IS%r@+!nV@#IVd@*'sQ@'0vQ@#IU#[QK@#IWQ@$pS@",
  "#I^j@*PS@#IdRtick@.BT&^@&&vTlace@)EQV@?qU@%,lc@$=hP@%*nq@$HUStak@'8uPlog o@2,[Q@/ElS@$gO(e.g",
  ".@+RV@nXto@%(uP@mR@$CeU2) excep@#LlR@%mP=@%&ZR (see@$BpS@8?qW@$8`P@$Lnhit@'=]Rbe a@.FxV, lik",
  "@2I^Q@*I]S@#o`@:$vT@#s[@%)YR@/$SP@'jOcale@%*^Qeach@,fRy is assigned a seri@#JiTfrom zero@4qR",
  "@%=_P@$?xT@2hX@2VO@2`Q@4$X&v@*)PT@4$`#e@)^Y@4!]Tick@#K`$W@%dO@#KZ]T@$wS@%WQ@)3r'V@MsU'@%0xP@",
  "*2WQfont@)3rP@$7XS@)3x$U@$vU@%*aX@/Gd,x@6qZ@%0ZT@#vTstop@#5aY@'/SS@7UY@#fT@#WO1@'/f#b@'/[S@6",
  "XQ@HXU@aQha@4*yP@'8Qr@'d_@'UP@'iQ@3rOoverflow@#A^$[o@06pRhide past di@5MlS@cTomain@#4Y^how w",
  "e handl@FXXtha@/FXR@&uR@+;VVgraph div@&=VR@(NvQ@$9iU@72qX@&*wPfor@45TS@$dUis@%z`. In@3?hQca@",
  "'.vR@#tR@#VZiv@$JwYT@+X[@+nV@4Eks@+n#e@4CsX@4Db_ top@nW@`U@rR@++|U@sQ@aU@tR@+,iV@uQ@bV@vR@+B",
  "zP@wX@cS@#Aq^r@$/jb@(D|[ticks. Left@7;kPight o@(jO@#ZPused@#4iQ@%$QU@#1nQhQK, top@#_O@+FoQ@|",
  "c@-]d@4?jW@$2vSte@6Aya@%3^%k@'K^Xspacing@&5yW@+]S@)KdPar@(BkU@#Q^s. A@,%iT1 (@%lQ)@5NvQ@3GcP",
  "ick@4LsPa@$UP@#WW2@zQ@*GrP@&2oP2@$%nR. A@:FVR@#SPn@#PQonly@#OQn@HxQ is@#WPed@&>[T@*/VS@#%mR@",
  "0aU@9:jRot imp@5>jP@&?WQaxe@LYQ@#?[Q@&HaRor QKmulti@#?iVor@%BOU@%7USQ@HlP@/rc@/]O@/nR@&,m&b@",
  "/UP@+(]Tpx@3<VX@'pO@&)uP@(rR@KT$Y@54xT@;NZW@+eQ@%=VY@'(iPod@;MoU@1<_U@#oP@&0XP@%EuZ@$/ZQvia@",
  "%DsU@$EuP@$nQ@#ZP@$(r[@#bS@*>uXa@$&VT@51wU@2kP@1AVP@$?lPtep@$%_S(@'VU@'0oQ@MVX@%GlR@#gQ@#ZR@",
  "84]P@4$^P@&<|R@(gQ@&Sk@'gStickval@7HSQ@)gS@53yR@oO@5<nQ(@*mT@%qh@#rP@47nU@/f]@$5[V@%'^#s@#AT",
  "Y@*dQ@#ARP@%#vR@%^Y@$NgT@&+ae@#%[$_@$Aqg@'>TS@NwP@%0ZP@-lQ@-gP@3dQ'@|U@41xS@xQ@$sT(@$rT)@#`W",
  "@$YU@#%|Q(@xP)@%H`X@$/q]@#6pS@%(x#s@,ug@%-`R@%ZZ@%&|T@2`Q@.5U&e@7_O@%3aT@4;qQ@-dP@<ZS@8tX. O",
  "@&>U]@&4Yf@LYRUs@%5jR@#oV@*ZY@9HTR@qR@*X&e@)>bRt@;*yR@(*^[@%KUS@)|#d@66pR@)|X@)oO@)|Q@&4v&e@",
  "7wO@&4|W@'l[@&4gS@9:Yp@(HeXT@9:]$j@=Ct%f@):y_-@()nP3@4=zY@:zS@%Am[@+sOlot@9-wT@+7YX1.02@#G]g",
  "@$fO0.5@#ITg@4Ai_@:+v$^@$#uU@:*iP@-.hY@#3bV@%BQY@-.jU@5&nT@&YO@'2aQ@[P bind@*ZP`x`@zT@#G[Q@$",
  "zR,@$yV@<MUP@$zQ@+YZ@*sX@&bS@*wk@$UU@+Qt@:.yTxpa@2*U%f@<framou@#7ZP@'KXR@'#mR@87XTx@%KpT@3>_",
  "Ya@2%iP@9V&by@9V#Y@8^g@0YR@9|h@0SZ@38uQ@9V$^@$;uT@2-WW@$9rX@9Va@..aS@9TY@9Scy@9S_@$wO,@$vV@9",
  "RO@$wS@9Sk@#YS@9Um@#wS@+Pt@9UTy@9U'Zy@9UbY@9UO@)Ns_@)NUS@)N|o@#(eP@-,z([@%HWX@-,wT@>0_X@iO's",
  "@-H]U@((eP@,;xUnow deprec@9QO@:'gPfon@6IhV@9&sQi@$8a$Z@%'zV@<QT@%'hd@&:eP@7LlT@(c]@&-e_@:[d@",
  "$iP@9Y_f@:XU@&yQ@#VQ@&PR@#Xc@:dO@+_a@&XS@+cvside@+cX@'+oUi@$4pQ@-8m$d@)mU@'^T@6NXVx@70iU@:5h",
  "X@(WV@.=RQs@(WVdefin@<1[P@&EQQtl@'uV@=JTS@GuObehavior has been@)]U@-<Ul@<^_@=[a@97pS@?&m|@:H",
  "Ol@$|P4@#Fh$f@8=ap@.7[$j @+nZ@*pS@+ca@7)sU@+e#v3@+e%g2@+e$r@*rU@+gapol@?(W#c@#jP@&j[Q@kS@?(b",
  "e@>NY'Yradial@>NWf@>Mt$a@>=d+b@#Jka@-6a%[r@>8W]@*9oVr@+/`Ph@;Cz%g@(3kYeta@&w]@4KkT@4A]Q@&wP`",
  "@%IkPequal@&3QQ@-,pP's@48eRdi@7KPP@#2[Q@*0yX`r`@5AidD@)TP@>7n$sr@>7`Qhe@0JSP@>7k)b@LjO@>7pCy",
  "@>7P*i@)FzR@&/v]@>1P*m@>$|(rpol@>%S9R@9YO@>%X>Qangula@C5mT@>%ag@$A`QtunitQK@:7O_@>#PU@=Ir'gr",
  "@8Jr&lr@8Jrg@%+jV@+(]Xr@9_Sr@8Jro@#-zP@%-T]R0@)qO@(2Q&e@%DXQ@8DXV@'bV@=Jzwpol@=KR8S@%EZQ@95S",
  "$t@5<fQ@95VZ@;vO@#sR@.1bSlar@95Tg@#oO@93n[@#YO@4E_Solar@95OS@#Sf@94seS@)TQ@>%d%j@B-qtba@>%c#",
  "V@5!YS@>%W#e@&&Wc@>!XSheta@#*Y&l@&-cP@#*^f@&/TZ@,0pY@&.vP@#*fQ@(jP@#*jn@#YQ@#*n`T@*VP@*aR@#*",
  "v&e@#>xR@#*wb@'kO@'jSuni@-?e$Yradians@56zRegree@]Rg@lT@*8tXunit@3FPPput@&5ZT@NZQ@#%n`when on",
  "@*;OV@(XR@/GlP@(RZ@'vO@=.n;spol@=.s4h@##bR@%9qT@#%SQ@$Fze@5?]T@9JVj@(0gR@(2rd@5?tMv@NRZ@Nyf@",
  "5AQ,|@-Wa@.Wf@5A[#Ah@#AqU@5Aa#-`@$MeV@$NZl@5Ak(HZ@(Hj^@5Ap#'Y@)N`_@*!^t@5Az;x@<cd@=ff@5BW*l@",
  "*uX@+mf@5Bb*n@*wZ@+q_ound@#'-T#Oeas@)3d%e@,HQY@)+RPlongitud@)bSmap (in @0=YQ East) if `west`",
  ", `south@2;[Ror@ZOre@H<vR@>bXEas@)2`Por@$9q%f@(eaat@(dhNorth@(ePea@(eP@(mO@2IyQ@(pQ@(dc@#aOK",
  "&,K@xO@-;g%sn@(e#b@.zkS@([O&,Kwe@5d%t@(dR@5du@(dR@5dwWes@#%wY@=`Q@=|`@HHv|@#fP@61bUox@61]`ox",
  "@#'7k)noxmea@&Kc$W@0=PQQKs@J0lP@0=YP@)#]T@)7tR@(8sQ@#!FSTox(es)'@ECnWis@#6aP@5DeRrawn@'7_Qas",
  "hed@)ErP@N,^V@#iP@EFmRd@NAyQstandard dev@*5SQi@6.eQ@%IhQ@#CtY@%pO@.$mRea@$.VPset@xZ@$XO@vPs@",
  "1#UPset O@IByS@#DkX@(RO@$/nYB@+^Q@+iP@2Cmf@)$T#zoutlier@1=gRsuspected@gW@,`Z@lT@)+RUs@+7zP@4",
  "EtQ@#!Hy]whisk@)CyShown@+mQ@$j]@.bP@_Q@#uR@#YTa@#%#UT@'3rQ@*.RT4QK\\1-3QK\\3 o@$3tY4QK\\3@kO",
  "1@)-hQghlighted@(:VQ@$jQ@.H|R@)3RZ@'UX@&gY@,yQ@(XU@0yQ@xU@'FwPo@#lY@/kY@*r^@.3gW@%pW @.8bUli",
  "ne@mY@1va@-jP@-HnPthe q1/median/q3 signature.@2[d@%eT@2_Z@2G[T@#'9[/o@)#`Pulti-box@(mRset@(5",
  "|Q@2cV@#'9p&k@'o#XyK&,@#)Ev$]f@-.dPlo@$BvYa half-transparent@+5bP@*2^U@*GgS,@.CnW,@#,yP@`O@s",
  "Vwhichever i@,=`U@#)Gve@#'8q,lox@7#O$u@(4y#o@/iqboxe@.LgQ@NqP@/Va@._O@)6qR@*yOffects@#*mT in",
  "dividual @#xO or@#(iYor both?@+r[@(/sP@7(z#&Ujitt@%EuZ@'+z%k@/0c_@&GvT@&uP@6-VU@#,cU@(<^V0@$",
  "8sR@$5eYlign@&IRU@$FWW@)#oU1@#bb@(=eSin a random@%_Rof@($`Q@&jS@,7sT@$IVX@+rWJ@+kP@72t(sox@7",
  "2o8V@02dp5@8q$gowerfenc@%jY@)'Z&V@1<fP@&tO@5(PSThe@%2RP@#'oRs@3'hP@5<tQ@#[P@)MuT@$,]Pdes@$5o"]

def schemaBlock03 : List String := [
  "P@($rP@',XShas@-CmW@%0omIf `@*YT`@43qR@42uSbut a@#!SR(in `y@$;YPx@4GhPset, we@%NPV@'YQ@&YQla",
  "st@##hW@.$yQ1.5@JVO@uPI\\R@1aX@-iT@7CSrox@7B|$n@&$lZ@1`&Vmea@1AXR@1X$x@&%dS@1R#`@&yOfor@6&hQ",
  "ox@,0vV@#mP@'kR@7;VW@&&VP@%lP@-R&gdi@-T#h@(wW@(oO@8'|3tnotch@5;dZ@.$Y%v@&cP@.$QWN@bQ@$>SQs@J",
  "DlPfiden@(UO@0!mQa@4JTP@<ST. W@CqX@#X`s@=UR+/- 1.57 QK I\\R / sqrt(N)@0.fRI\\R@+wTterquartil",
  "e@'&jQand N@6>lS@EhPsiz@HZPtwo@>SP'@'TSdo@'dO@%>tPp @#&.eS95%@%uV@')SP@%oPs@%,RQ. See@$JSSsi",
  "tes.google.com@`O/davidsstatistics/home/@.bQ-box-plot@$7qP@#+?`U@&>_X@&CYQ@#&2XR`@#bOwidth@L",
  "QP@_Osp@'#oV@'D_W@0wP@1URsp@KP&g@&rO span@%4sT@,zQ`@+rP@=^R@#)t$x@+nX@#)y#[@6*SP@4ch@3la@.ZZ",
  "@.OO@.]R@$!w%j@$Dce0.5@$!z^@DqQ@8yR@,2]Zbox'@yP@,MuYwith 0@+EQQ@?dUas wid@VO@$BYc@)sO@$$VS@#",
  "(Cs1b@'KSW@#(Ct[@'LyZvisu@3%]Q@#(Cs#Ypointpo@.F[%f@*;`f2@.5tX@*;^Y@%/OXi@,MfR@*3tT@*dX@%1ocr",
  "@,,zQ@8#pQthe@#*KZS@,RYP@1*iR(@4IgR@3,QS@25]X@&2vT@%TQ@$KvP@K8ZQ@L<vX@K|Oand@#-6cQ(below@tP@",
  "L=PV@vO@-UUP@,sR&,Kq@)*wP@#'Y&`\\@#2uR1@$#`#q\\1@(uO3@(u&n3@(u#r3@(uO@$XQmeth@##)[b@+7f#q@,I",
  "sVexclusiv@,8gT@_T@BrX@%nP@*'xS@#CYV@8zP's \\1@5wO\\3 @&xR@-ERQ@$mU@#kT@#|P25th@L%hRi@19TQ@#",
  "kQ7@j_3@-1sRu@&C_T@#wQ#10 (@$E_Qon http://jse.amstat.org/v14n3/langford.html)@%pR@(TV@%sZ@#G",
  "xQto@<CgQ@.J^Ted@/SO@//oPto two halv@#+;_Q@?gTis odd, it doe@#7kP@*`O@#qQ@$YQin@(:`Rhalf - \\",
  "1@#6`Q@()YQ@vP@%1bRow@yR@*kQ@s]@5+RPha@*0yPe@-RY@']Qalso@'b#^@#((UU@'f]@']Q@$UW@M2iR@#cQ@'^#",
  "n@5zV@5tX&,Ks@5zY@=S&V@)%y^@#It%Q@)'ZQ@%$k#`@'X^@%$y#OS@-gP@8%ipox@#)Jm;o@-6yR@9GUi@>]V@#-%z",
  "'Y@9ISR@93w;nox@93r$pupp@'%g&l@#F_P@'%g%W@*YT@'%g$W@$BmP@'%giU@-iT@9?n)i@*JeP@%CX&W@%4WX@%CV",
  "W@+!hS@%CWy1@+WP@+#zW@%CXnW@)hV@N5v&n@%-hT in@;9zZ@%/eS@0$cS@;9[Q@#dUis@36UY@#MtSbas@#*>wR@%",
  "2eTs of@#+jQ@*9wU@&HaV@;<]S@9Gr]@#)'r&a@*GSafor@#BXQ@*A[V@0CzQ@;/i_@*B`xSee overview@#0.Xf@#",
  ")(T&n@IbQ@oOo@<AoY@(]s@.DqP@#))S#8T@,4ja@#CX$x@#))c&n@#CX#b@#)*b#4fo@#'#_a@->xW@=/OMi@MzW@No",
  "a@=.r,y@-R^@-za@=.h#T@62s%t@/0SQ@62zPin@2&lV`@dOref@$&UXA@60qR@/5o$W@<(t'S@-$hp8@;5P$|@'9a&R",
  "@/^Q@&sQ@*Ldd@02`U@:FO$[@0<VV@*BsW@88Q]@#3rUsiz@#';q&a@+]Qsiz@(&RP@4+SZSiz@#*<oRbo@/?uY@$)e#",
  "w0@#KxQ@VRcirc@$)iS10@fR@XT@pP-ope@%*fR2@kS@XT@uQdo@#NSR3@jS@XT@#nU@yU1@VYsquar@%]T@nS@XS@pP",
  "@%]X@kR@XT@uQ@%]V@jR@XT@#nU@yU2@VYdiamo@#4!tS10@gR@XT@qQ@%_X@#jS@v[@%`V@kR@XT@#pV@zV@VYcros@",
  "1'SR10@eR@XTcross@%]X@jR@XT@tP@%ZV@$^S@#l^@xU4@VYx@$wS@aR@XTx@%PX@fR@XTx@$yW@eR@XT@#dP@tU5@V",
  "Ytriangle-u@3*]R10@kR@XT@uU@%]X@pR@XT@zV@%gV@oR@XT@#xZ@#QU6@VY@zSdow@$tR10@mR@XT@wW@%uX@rR@X",
  "T@#OX@%wV@qR@XT@$O]@#SU7@VY@#OS@$7nU10@mR@XT@wW@%yX@rR@XT@#OX@%yV@qR@XT@$O]@#SU8@VY@#OS@$;aV",
  "10@nR@XT@xX@%|X@sR@XT@#PY@&OV@rR@XT@$Q^@#TU9@VY@#PS@:?cS10@kR@XT@uU@%wX@pR@XT@zV@%tV@oR@XT@#",
  "xZ@C]V@EyT@#OZ@&%jS1@tT@u_@%sW@pS@XT@zV@%sU@oS@XT@#xZ@%sV@FcS@WR@#OT@&'pR1@tU@u^@%sX@GaS@z`@",
  "%sV@GfS@#xd@%sV@FxS@WR@*lT@%sT@tS@u_@%sX@GuS@z`@%sV@GyS@#xd@%sV@G`S@WRpentag@8BxS1@qT@r[@%mX",
  "@HXS@w]@%jV@H[S@#ra@%gV@GrS@WRhex@%fW@pS@qZ@%eX@HmS@v[@%dV@HsS@#p`@%cV@HUS@WR@xQ@,fT@qS@r[@%",
  "eX@HuS@w]@%fV@HrS@#ra@%gV@GvS@WRoc@,fX@pS@qZ@%eX@HeS@v[@%dV@H_S@#p`@%cV@G`S@WRst@+HPS1@mT@nW",
  "@%]X@GuS@sX@%YV@GlS@#j]@%VV@FiS@WR@)iOra@74eR1@qT@r[@%_X@GXS@w]@%cV@GRS@#ra@%gV@FUS@WR@&aO@#",
  ")t^@yT@zd@%wX@GXS@#Re@&RV@G^S@$Ui@#7cV@#<gT@#T`@#*^V@rS@XT@#O]@&_W@$TT@#Tg@&aU@vS@XT@$Yb@&cV",
  "@FZT@#VV@#?`X@kS@XT@uU@&TX@#sS@z`@%zV@HRS@#xd@%sV@FZS@WR@3pP@#?vX@lS@XT@vV@%uX@#uT@|`@%vV@HU",
  "S@#ze@%wV@FeS@WR@xRt@2FvT1@lS@XT@vV@%wX@#uS@|a@%wV@HcS@#ze@%wV@FwS@WR@#PRw@6MWT1@lS@XT@vV@%w",
  "X@#uS@|a@%wV@HvS@#ze@%wV@G]S@FaSourgla@#IVT@iS@XT@sS@%qW@EfS@WRbowti@'dT@GTS@pY@#hW@CqS@WR@$",
  "&yQ@#LfW@lS@XT@vV@#tW@BYS@WR@yQ@#KTS@hS@XT@rR@#lW@>|S@=wS@5aP@%eX@AyS@v`@#tV3@$,]T@yX@%eS@hS",
  "@XT@rR@#lW@#2TT@-]Y@%fW@mS@XT@wW@#vW@7PT@zY@%hT@9sS@s]@#nW@4tS@$'hXthi@DmS@jS@XT@tT@#pW@2mS@",
  "$&_T@#lW@5`S@pY@#hW@#*jS@WRasterisk@#`S@3US@r[@#lW@#(rS@WRhas@;6rR1@dS@XThash@/gW@iS@XT@sO@8",
  "WU@$[T@#j]@wV@#(oS@WRy@#$OU@dS@XTy@##pY3@#&pS@WRy@NXW@fS@XT@pP@#hW@#$XS@WRy@$'VW@fS@XT@pP@#h",
  "V4@3OR@WSy@$$rX@gS@XT@qQ@#jW@2uR@WSline-@'MgS1@gS@XT@qQ@#jW@2mR@WS@tO@D.zS1@gS@XT@qQ@#jW@2hR",
  "@WS@tP@?rS@gS@XT@qQ@#jW@$9xS@WR@tP@&tT@#B[T@qY@#jW@2fR@WSarrow@.qU@hS@XT@rR@#lW@0|R@WS@uP@.y",
  "V@jS@XT@tT@#pW@1VR@WS@wP@/TV@jS@XT@tT@#pW@1aR@WS@wP@/]X@2dS@u_@#rW@1kR@WS@xPbar@)PV@2oS@v`@#",
  "tV5@1vR@WS@yT@)XV@nS@XT@xX@#xW@2WR@WS@|T@)aV@nS@XT@xX@#xW@2fR@WS@|T@)iW@oS@XT@yY@#zW@2vR@WS@",
  "#OO@#fS@3sS@oX@#fW@2rR@WS@rP@#,oV@jS@XT@tT@#pR@-BZY@%2[Qymbol@1CWQA@65rP100 is e@#:4|W@3B`Pi",
  "ng QK@#uR@?JdP@#ePnam@#eT2@#el@DxP@#dd3@$zp@#iQor QKdo@*hS@#y]@%7WV@%7OP@&,qY@>9yf@-+YU@5AY#",
  "v@5G]$q@'RU@'ra@5GR$T@5Cb$q@'TW@'v_utton@5C^#Oargs2@)2h%z@)2cXa 2nd@#+%XR`args@64UPse argu@-",
  "#YP@(=yUpas@((rQthe Plotly@.$XR@B6rS@^O@B4YQclick@>?vSb@*ZO@1CWQ@?,tR@#;<WQtate@;/jP@'9QPo c",
  "re@'$`Pggle@#_Q@&'oXA@*tO&,@+PO@+O&[@&:uP@*eY@6<iP@*gwo@*eQ@(q[@>&RPecu@3<wb@-8T%TWhen@C!lUA",
  "PI@'dRis @&fQd@(DuQ@7TP all@+FPR@6CcQ@,HlQ@56[Snd command@#fQ@/1_Qskipp@,6jS@4Ao^hoo@2UOinto",
  "@3$kW@(FuQ@3)wP_@1`P@*nOed`@.6ZS@$fT@.&bQAPI@%SSmanually without @?&dSe benef@EFlP@,<QP@0FjR",
  "@#5$rZi@#+ChW@5WO@<%xSlot through@mP@&L_Q@/8[S@.zSand@9aQ@>(|Y@.tP&,K@4'q^@'.s#sext@(/zR@#%S",
  "P@3HqP@(YO@*QO@1?VX@4*WQK@.NS$_resty@&9VSre@)IyP@#-zRnim@#;:PT@+zP@$,vRkip@#.^[@8XX@8|Pcall@",
  ",)vP@8UQ@;GmQ@43|Q@3pTused@4[T@.cUwill fun@.%eQs@AFhQ but@>L|Q@)2iP no@0yPall@'D]P@mOnot@/lO",
  "@=Bm]@/sP@$aPs@4l[@/&PP@D`Pa com@=%aQinterfac@6gPattach to@&PV@46qQ@3vSvia JavaS@+TO@1!yZ@.E",
  "cQnam@,Gu#n@0zT@;bO@(-vRa @38jR,@ALwQ@-JiT@'cP@3=OSoutput fig@<4dQ@#&jR@AN|P@-%TR@(#iP@sOalr",
  "ead@9.bP@#hOis@?NaRY@-2oQmodify@#!_Q@5,|W@$fXby ma@=YOyour ow@.*^Q@9/ZQ@&cQitem@-CaP@0/dS@$l",
  "O@-CvRlongside@#hP@-DvX(@/$UPing `@,IqQ:@CTP@-&gPenabled@cSt@3BpQit)@C#^Z@5FYRof@)|U@(%f[@'I",
  "vP@&WX@-_#wU@2QQ@*3aSa@-XU@+_X@*oR@&VTN@.VU@0JwS@nR@>)UT@.mQeve@5ExPout a@*xT@$aT@CC[R@,rP@(",
  "-uP@->oR@-|Qon@-^V@.5gR@-Wlit@-VR,@-W#z@=`P@1-zPno@(PTor no@'dX@:&yQ@&]Q@(pP@=-gP@1+xRyou ex",
  "plicitly@(5^P@#5NQR@%fTtru@C0ZY@4BcR@.yS@#,=g&g@#7xQ@#,=[k@#CRV@#B^R@#Bze@#ArP@#Bzucou@>Hs&X",
  "@13oT@(HOSstep@.6sPake@IpT@06SPang@#?rQ@0ePstep@=(ePpec@CuQ@#SR@1CqR@(&gYu@+5oP@#,Y%e@Mt,|@;",
  "Emd@#7[#pmon@#<*aSy@06kTday@%KYU@YQminu@#7]Tec@&+WT@&'fP)<br>T@G:UU@=?bQmen@#6(yQt@DHyPunt@1",
  "J^Q@)-iQ@=3yQ@2)|Pb@B,QY@;=cQstep@;7t$]backwar@'SRto@#=OQ@#<qX@&OP@;[Qmo@#64eS@#aT@#<QP@wWs@",
  "I6dTst@40rQ@'mQack Q@DbPQK@.1gQQ@'mOQK@A5OY@70wP@%bQ@$]#P@B<TW@$`Otamp@#+WP@$yp@#jO@.&u_@BxQ",
  "@:DPS@/iQ@/#_Q@-fO@kS1@72rQ@&Xl@.]U@&]QJanuary 01@8M|Surrent year. Month and@+.XP@,YU@=oO@|P",
  "ly@52lU@/M|T@CTOilt-in (G@+?VR)@+;cS@1Z[@;9lS@#6d5U2@#6d_Candles@B?_S@8.y#Xc@#mU@8/T^@nU@8/]",
  "eclo@M>gZ@,<|&V@&nO@0Iu_C@'ZO@7?j+fecreasing@%B[h@5SUD@#TT@7$j$fig@H!gi@4y%thigh@4x_High@77l",
  ",o@5XU@M8u$w@6:l.qin@GX|I@#TT@6*w$k@64q(i@+wU@64y9O3@EFc$g@?.Y[@64s&Y@#;O_L@?*WP@LKr3r@4HX'h",
  "p@?(kZ@>v&Vope@3?kT@'dW@?(eP@36Q8w@L.Zt@,8UV@36S$u@/F[U@,;ke@34h:z@3$u1b@#9GV&uIf absent,@M+",
  "PR@6FaZbe@#C3|T@2AU#4U@21p)e@2(`2U@17tj@(8xV@(9ki@(&fU@08^z@=;S'q@;(Y%^@(F`U@-Sa@.Pi@1EYMh,K",
  "spl@##-db@&>Q%TShow@,wQ@';UV(open,@)BWP, high, low) in@H2bS@G9`_S@'jO@#'wb@1KYi@(AYa@#3y,q@-",
  "SU@.Pi@2*d,x@-Zg@.^`rp@#%G[Q@*7u#Z@#hO@*7p`rpet@AEyf@%,w%e@#$0z]@#$0vh@#$0re@#$0nT@#$0jp@#$0",
  "fcA0@)OO@)?u&]@LKv^@2-fX@>NrQaramet@F2xS@(QV@(PO@$Jh]@)3c[rpetA@$DRQ@(I[$cb@2n%wb@2n#Tb@2nSb",
  "@2nob@2nbB@2nOb@2n&] two@#H%dT@L-VR @#<NRZ at@H0fRrpe@?2uS@(XV@(WO@2urB@2u$j@EvQ@LS#vAn iden",
  "tifier@$'ST@$lP@)>RT`@+#fQ@gP@'BmSntou@cS@'6nQcan@,BnSa@*kSlot @.5SPch@)BdPli@;uW@LnQ&,Kchea",
  "terslo@KwP@8h%dTh@,%xQ appli@%EhP@((yPu@'BnPve row@%=rSin@+KUP@M?OP@'_Q@(gO@EKqQ@$*cPf `x@8s",
  "Obeen o@?5_P@+4SX@(nV@3)R$V@$%OR@$#aR@$4yP@)1va@)/sPll at once:@>nO, font@I0lP@$!sPgri@$;cQs",
  ". G@[S is @B2cP@FIZQbl@/,qQ@A!yQ@#B1aQ@/jO@$=TUI@A*sTpie@0uR@A#wSth@N%n_@+;d+g@#*$R%r@#*#|^S",
  "e@#3rQ@#G?Sf@'ZP@#!aY@'Z%cb@'Zbb@'Zib@$Lfp@#Mx&Z@*<wV@#BGzX@?qO\x7d@GNWW@FCPR@LsQ@+0t*d@+'Qz",
  "rpet@#(Kk8W@*KS9a@*(fC`@)Mi&]@%.Tf@)IUY@%.T`If@$KdR@I;|Rot@NFsP@$LvV@I;eSxaxis is@.CXR@)#ZT@",
  "*!R)w@9-w&]@%=k#i@9-s)h@(9pl@&9TQ@&;[b@&*hP@2-r|ray@#!Dxe@JGr%pTh@#6hPd@.`Tgri@F)lP@#FMsV@A`",
  "O@2#|W@'sS@#=#oR@L?ge@N2Z%p@(TP@&.PQ@#IlQf@(Wv@'vP&,Kautorang@#)t$i@$=rU@#)rl@0![Rof@%EzU@#&",
  "!wV@?0|^@#&!vT@%.xQ@#fO@IHPP@%/RYIf@mQ@#6RW@LFaQ`@(nS@II]X@F4V_A@)mS@)zQtype@%!sQ@*Gw$Y@#!C]",
  "Ryp@#)#rSstric@I6aSUs@3)PP@eS@##AqS@**QRi@#<jR@%BQP@#1[P@$OQ@&'hP@LFTR. @#qR@$oZ@#xj@%FpQt@0",
  "$lQas@#!C^T@%*wR@1NQR@)G`Wdet@HEXR@#JoV@CWQ@*aY@+^[@+PV&,@LKWS@#=DO&j@LMcQ@&6`R@$)dRe@J-fy@(",
  "dR@%&eQ@J-kk@#QX@#&1tY@*UV@*gU@|O@I1Z$Yrac@#LLUZ asc@&0PP@hZde@iY@K.vX@#!&ZW@&dOing logic@0;",
  "RScas@$tO@$2UV@DMyS@#.$qX@2CmP@?*^P@%uS@$%jR@DJjR@,rVthat@=SPes@$!hP@,BkTsu@&<rP. Set@,][to@",
  "'scor@'tdif@$oQ@=1mT@K1pX@*.sPpha@#$-mT@#SP@0CxR@#zRnam@:>yP@%eb@*URto deri@#&$XQ@*PS@0=hS@$",
  "3_T@#jS@#<MjRIf a@M3VWnot foun@14gS@#UY@$*vRthe so@MlP@HCtS@,ePa@$IyU@+FSS@&MaPc@D6pT@/xT@1%",
  "SP@1*xP@E'rT@6gU@2>zPoll@(?uQ@jUin@&s]@5V^@4rP@&MWT@'JRR@5T$Tinde@4NoRvalu@1+WS@&Iw^@$iO@&Iv",
  ")V@#$0[%j@#4Vo@#:]#P@##AbTnd@(?z]@->a%w@GHaQ@GH|St@'mUfin@+)fR@#5^W@1;iR@GKeUen@GJRR@#mR@&(T",
  "P@BgR@)uT@36tX@)^Q@)iT@(Nc$W@(L]T@%kR@&_R@%i_@(LWS@%nQ@&&S%i@#!Dem@'cg@&$yS@#$%V,Yfixed@$#Se",
  "@1:b%t@$#eRzoom-@)4jP@#%FSSthen@hO@0CmQabl@'LcYF@(PT&,Kgrid@##1l$tG@%OS@%]Qdas@;`a@),b#kdash",
  "@.:xP of@CgRS@#%CqR@mOtyp@,,SS(QKsolid@1!]Pdo@1!fQdash@XPlong@]Tdash@tQor@mU@cO) or@$ZR@*!RQ",
  "list @&AaP(eg QK5px,10px,2@RPQK@%3yXG@(oR@(|Q@##8f'dG@'lS@3*oR@JM|Q@$?z%f<br>Extra@K$|S@#-YR",
  "@+!pP@%7sR@#-RZL@'UV@'fS@M#j$V@*oP@M#jc@%cP@M#kS@'>RP@LIV$V@%bU@LIV^@%bO@LIWT@#$!]$xL@#,TV@#",
  "$!V'hL@#,kV@#$Be'i@#$AQfminor@#!^$[@#<OW@#?lbM@%]X@%oX@4%qc@#$Dz%q@4%s]@'QO@(TP@M/gQer maj@d",
  "V@(hb@4$zQ@(hS@#)](g@)YS@#)bR@)XS@?v&z@5|k@AOS@#%+r+j@#Jw^@6.X&Q@%Lr]@##Bn#c@A<ZQ@$TQ@##Bn[@"]

def schemaBlock04 : List String := [
  "fPfrom 1@##Bm[@lU0 to 2@##Ae|@.$lUs@##AdZ, though Date@(KaQ@&<qPunix@-HWX@HDTSccep@#IIjR@%Jy",
  "W@$[Q@##Ca#Q@-2RS@##C`$aR@$'mR@&)nS@$8Z$Zrma@8BhRtozer@#J&yU@D:XR@#$ErW@#TR@44hV@&.wjextrema",
  "@BsR@&/YV@46cQ@$oP@L.YQ@#wPextend@M,eP,@,)gY@#iX@$9US@%|T@%hYnon-@lR@#oi@+W]@41SR@#%7U1Qgr@#",
  "*4jb@$G_%o@%;OV@F4tT@%4q[@v_ a@#'GfR@#'CdS@(w[@(gO@1,rR@%<^&bbou@%I|U@$NgR@#%>Pa@%:gR@#%Drn@",
  ".BQ$O@#N1fT@$#?hb@'i^@$5TT@#!5lW@11lQow@ICpQ@4#YS@^Pboth,@(yO@<'uQ@5=PR@#$tR@#%Em1[smooth@%%",
  "rc@)7z%k.3@&=sZS@&sS&,@9xP@&0p&y@'JbS@&0sp@5FiP@&0u#QS@)eS@)rV@&0y$j@&eT@%oa@<6|T@aR@&1R&_@'",
  "ik@#!ASU@#%Lh%h@(-z#x@#%BS)k@#%=w'X@(eO@-:jU@#%=f6X@$CT$]@#$Axe@#$7Z%y@#$/r5c@,5]qAaxis@#$)u",
  "$k@(A^$]-@;*kU@8#yU@$'%Rv@)%p`attemp@)6SP@)!SU@#[W by l@9IXU@)%hT@+<zV@4,hQ@*0QS@#hU@+GlW@.B",
  "U[@.F]W@**yT@*+li@##.b(b@#%-WR@##.[$W@#2Ge_@.:n%Z@8AqTal@KFuRby@>lRo@HJkQ@/)]U@7MtT@$&G_Vgiv",
  "en in @#)M]R@LKzY@)jv@$iP@##,ec@#2E|T@/.u$c@$7fS@##,c&R@:X[@;Pd@.<aP@*En)MTB@*En,d@**yP@*+li",
  "@*En:O@:XU@;Pd@84x,z@-U`@.S_enter@E'X|l@$+Vb@6.b%]@#+:_]'s@#$IVQ@$$XPall proj@7(SQtype@;:uQ@",
  "|P@#eS@#$J`Qli@#1bP@qOidd@+fU@yR@BK`R@4:p`L@#3EiQ@57O%f@?#bY@#+;[]@)bU@#?*OZ@)SQ@#WS@)Tm@zS@",
  "&NSQor scoped@+^V@#%#hT`@eT.r@5NlQ.lon`@;D`T@?'ZYn@4YX@3[Q@3wd@CFU|@3w&W@#%-yX@#+Mia@2Q&m@'i",
  "iEast@'hY@/V`@B=va@jOEyeUp@$2*Q&i@$6vZ@$2)c%j@&QZ@$2(t%j@&QZ@$2(XX@/pW@0d_har@96_m@$pX@#VO@#",
  "0EhUto hous@#MtS@8%kPt up@6:|R@6#OPur@C.XR@%iOs@6CpQ@#=WRect.).QnQnA char@#-pSs@'DvPmany@:4X",
  "STh@&DkPreal@+(xPful@5JwRw@#8']Q@B3]P@$$[X@7-OQ@5MXTdate grains, ba@:1PQlines, o@B.iP@#'%cQy",
  " big@7;QTv@:#zS@%yOt@$11xU@C>vR@&&kP@#0*fSrend@'TOT@$2(pTi@#0NpRyou@#;xQ static@%;rRlik@#/bQ",
  "s but@8,cP@#VTcan@F#TQter@F*kQ@8,TS@#_O@F*WQ@#A=jQop down@$-!SR@%2xR@#`^@$TR@F+sR@5/|R@MHmSc",
  "ohor@<0ZQ@+[PQn``` yamlQn@(^O:Qn  name: a-@aO-nameQn @#UQ@pO  - ref(a-@dO@rO)Qn @(lQ@sQ@'wO:",
  " 'Aggregated Fibonacci'@rPyaxi@#vR@#STWidgets Sold' #D@2^Ob@#FnP@8FORyour@53xQ@#bPx@#naeek@#",
  "fh@5DYP@#YPstack: False@(aOK@DeZ@CIWR@8qh@D.nQqu@:CqQ@J:yR@#AQPacro@7&qQentire@#*eR.@:AqY@;v",
  "^@+1cP@%TO@$yS[@<OO@$wVA@(FVPo@$,3RR@'%fQwritt@$&oP@#,7XQ@3_P@7oP@EHoP@('pTref()@EGkS.K,@%6c",
  "Tone@$Ks]ref@AjR[a-zA-Z0-9QQs'QQQKQQ-_]@BSO@Apa@%8]ZraceK&]@?lU@B+pP@#`T@+IXS@0XP@:8vi@rP@DT",
  "#O@9PU@$&UT@#&pR@)PO@K*TRany valid@$BhR@Ap`.@EbX@DnO@EZ`orople@&:hQ@:,p#Y@#lT@IS[Q@mU@:,xf@#",
  "9Dq(a@#9DjW@#9CP&x@#8=Q,p@;tT@#8<z'e@#8;a)az@L#iTz@#8;R'Z@9NY+bfeatureidke@$+wa@%(t#kkey in ",
  "GeoJSON @$sQ@'+cR@%=TRas i@DvOmat@:=aP@'SS@#C7SQ@##fR@#/?hRs@##jQ@&0^`when `geojs@#0.VQset. ",
  "S@8DhQne@BrO@#1^Qy@#+FsZ@#1vT.@D4iP@+FaX@)XV&,Kge@D8r#n@7.Q#Qgeospat@#>K_Z@7.ZPgeographic ma",
  "p@(*aQgeo@7.Wg@#tb@7-V[geo@7._Rgeo@7.aS@#bv@7.heGeo@)|Qjs@8AX&_@,bOo@#]Oal@3tS@;vP@9+rd@)xOn",
  "ot@&$WP@)yP@4|S@FAYRas@$JSP@$7kR. I@#,-lTet@'9ZP@#FOP@$nR@#(ZQo@'9xQURL@NkS@#-bTw@F!eQ@#GkP@",
  "#_R@KrPype Q@3pRCol@>TQ@-;hR@hQ@'9`Rgeomet@-IfP@#`SPoly@K)QP@>HmPulti@cS@-vZ@-oO@DMw$s@<SR@D",
  "Mw)k@#8qS@#C7p#/s@#0TT@EAS8W@$!fQ@)7P$]iso-@K3zRusa-stat@00aScount@/CWR@BLiR@$)]P-i@09T_@#&t",
  "P@AdO@$BYS@&ExS@$CaPen@$,TPin@$CQWto region@#2XSmap@$(>oSQKISO-3@$(dPUSA@%rS@%>`P@%qX@#*=uX@",
  "$2sen@%2^R@&tY@#cT@MPO@#dSfrom a@$MQQ@$3cS@%=`X@$FvT@(6SaL@,xV@-[U@)/k&f@$CwVvia@#2>lTIDs@%9",
  "uR@#%7YQ@-lS@0Dz`@)Q^sK@#-)zq@LiT@#CKT6f@#<!W&n@#;MkT@&%PP@#;Md#Rz@#;M]#d@#)'ko@?iT@#C5n8R@#",
  "<7g'[@'zY@?VS@#*<Q&b@#6cR@#*6x<U@#1[T@#BIv,^@)9UY@$5U&Xlo@A=tQ@3PXZ@'[O@#A(Y'vz@#A'|d@(!jZ@#",
  "A&Sf@z[@#A%rkZ@#A%rRz@#A%r&i@#?<esz@#?<YY@)[P@#?<RkZ@#A#sQz@#A#s&r@/YS/or@/]R@#A#el@*bu@#?Nm",
  "a@9dO@#?NfdZ@#?NfQz@#?Nf&i@1c#X@#?LgoZmi@*<SP@=)Uh@)5gV@)7vf@#>,f(HW@(Hf]@#>,b#'V@)NW^@*!Qp@",
  "#>,Y;u@<_c@=^h@#/GdMs@NT`@#!Ph@5+`,y@-Ye@.[h@#/HS#S@#IN_q0@%&O$f@#IN`*a@/8fS@IGWa@1b`@#+Lje@",
  ".Aw^@1Yy@#+Fxt6@1]$d@(Q`@#+Lxg@-7o`@(U#v7@(U$y@#+MYi@wTmapb@#?$u#`@4!jT@#rQ@4#bh@sP@4#h.]@2t",
  "O@#%f#w@$BKOYh@'aO@1[Q p@2<VP@*KiT@2'ZS@$5gUlayer@=FOT@*_TID@5N`X@3]Z@3/WS@#9$cR@5MORthe wat",
  "er@$RP@'+`P@&0zQ''@+oP@$mR@%cY@#dP@':mPexisting@|P@#MZX@)nO@4+d-Q@0XP@4+jCu@4*l#w@4!l&fthe@4",
  "!gv@3N^1r@#.kP@$EMzDT `@#.QT`@3Nz;O@#0qP@4!S8_@)Kb&b@$%gP@3JqT@BBWR@3KuS@BDePplo@#72uR@-KhP@",
  "#TQ `id`@#<`P@3Cr#f@AaP@3Cx?e@?oP@3DQ>O@$(0o%f@'#kQ@$(0pX@'5bR@$(0q|@#ZP@,,kR@]P@$(0sj@tQ@$(",
  "0t&_@3Kh=c@CUP@3Kn#%v@)0yS@)3hl@3Kz(Hb@(HlX@3LS#'a@)NdY@*!dv@3L`<R@<e_@=jn@3LlNP@NZ[@#!]n@3L",
  "x-U@-`b@.hn@3MW0[@0fW@1dn@3Md'U@'`Y@(`n@3Mp'W@'b[@(d_ircl@%+:o#Oradi@$H,h%f@(2mX@'XO @&UP (@",
  "(`P.@3;xPpaint.@#?:QQ@qP@#;HnQ@$4-f_@$H+n_@#BFcQ@M,oY@(iO@+[W@*YQ@*u_lus@I!q#Q@#Fi%j@tP@#JES",
  "Sc@'[P@#1My]@##=tS@#;0RQ@*(m&P@'QQing is @&jQ or@#!IVaE@'^Q&,Kmaxzoom@%;u%y@K[P24@-5eX@+)QQz",
  "oom level. At@^Us@#dT@$%!cZthis,@13XRwill nev@$tO@)yR@#MMqZ@)UQ@#)W*T@#CDYq@#C?_]@*y(m@%>jrs",
  "iz@'FeP@BVi@#CDOS@(1^[@+T)Y@$2sUhow@$-ZP@#LGiR@*%[P@#>MgVa@+iSor adva@4>[Qthe next@,[Y@#?!PS",
  "in conj@#>/bR@*FTP@40aPfor `siz@/2kQ/ or@4MkR@#8<oR@$2OQ,@#=2uQ@LDyP@4;iU@*:qQ@,%^U@#8=|U,@#",
  "29_Qtep@N7SS@2KqS@J?zP@'LkPuntil on@+JcV@&wS@*3X]Step@#+RX@#*dR@#+S_@4)xS@#+V|diverg@M2pc@4:",
  "t#o@$>bR@$mS@4;YW@%:|T@5,][@-&[Rtr@))RQ@%,&TX to wo@N'ZYD@&zS&,Ksequentia@#=;b#n@'[j@$nT@49f",
  "Vfo@$&7VRv@#<*mT@'q#nS@'dT@'rW@$IJwe@'w$e@54_S@'w$S@$IFbQ@5YV@4jU@5]h@#?Ef#O@$3!a&j@#>uV@$2K",
  "gT@.Di&g@'TW@$2;yU@5,d,R@#E7mU@$2#V']@#>7i#|@I;nPbel@$ISSin@.)hP@&<]R@#JE[Tir concent@I;ZP@&",
  "0ORa flow@#$0W]@%KRR@&Z#w@#?7T8Z@#/Y`@#?1oaCo@%D^Q@7'V#Yone@7&w`one@7&kf@((k$_i@':YRtai@,ATR",
  "c@*AwR@(;TS@#9'mYones'@('zR@':W^ir x/y/z@4JfT@#:OV@$WQden@bP@#tP@KHqS of mas@*4fR@F+aY1/4@5k",
  "Uail@$jOi@#53hY@('OS@J/p-p@0Mt'ru/v/w norm@0Mxc@#6UZ@0Mxf@z[@$4Nb'g@0=do@*iT@0=hX@$4Lg'u@$4L",
  "`X@$4LXr@*fy@0NSa@$4J^'d@1k#]@$4Hc#O@7F|,mone@7Fo.|@$;Y'g@7Fo+b@#?2m%Xu@UPv@UPw@74mQorm@75T)",
  "done@74uDVnorm@74o:tone@#A&m8Xght@'Kc[@)Mk[@tP@#A&t$high@%+>vb@%q_@yR@%v$g@#7)Z8qsurf@BWOPle",
  "ase @&BxQa@%9|S@#+KrR@$#qPhigh `@#gQ@.zS@#DiVa@%/eQ@FVe.5 on two@$tRs (@-<zP25@6mPfour@lS), ",
  "@#+5nQl@#6zP@%;oS@#:GwV@#nSmay@3NfPerfectly be sor@'9XQdepth@&0uRwebgl API@,)yZ@%!zQimprov@#",
  "JWTnear future@%IXPs su@BjPto@5NOQ@)3bc@7>]&x@$71o#X@$71h#ece@#',gb@6My$_3D@IQWyste@&(pPa 3D",
  " @%oO@$-*ZRcene@6Mvg(x,y,z@$%,tW@6MQ]@#iO@%$#tScene@6NVS@#cu@6Nef@)pO@75_.aiz@#)(g$^scale@#E",
  "9fSbsolu@#E4cT@'W^`sizere@4GbP@;,RS@#kU(i.@&>ePless) scalar (@&+WU@F|Qmax@&?WV@.dQvector@%&f",
  "P)@;-jQ@%dW@4HxQ@#,WV@&A|S@#d[@*!i[@#)'`S@&eP@#He&VAdjus@'IeU@*(hP@'$XQ@$%cP@23cVcone@/KY^@'",
  "JTP@*wU@#$xQied a fa@)hO@#6nP@-dQ@##rQ@jQ(@#)3|Uternally@%$.tV@73[S@$.1zRQKtime@9*oPtravel@#",
  "#:XSwo@#:6[V@'MeY@$7vRaverage velo@#-VTos@-#]P@#cU@'NsUA@LSO@'sOn a@)MoQ@=OPus@'![U@&sP@##Ht",
  "Q@'dO@/-QP@+*]S@2uR,@3kX@3QR, i@#,EaU@/MhQs QK@5*VP@#zd@2nT@$OVh@2aQ@2s]@+rP@2yV@$qP@0#b^s@1",
  "6xP@#kQple's@*IyS@#dQ@'.lP@4`Y@%%/dR@7I^&[@3_S@%.*x%Xu@/BO&e@%3vP@3<mQ@;uQ@1ZV@78UX@'pO@#>3g",
  "%Qu@#>3g%_@#>+xugeneric@2=fS@2#]Q@*eV@#?4bY@#9%|:s@J`&ey@J`wV@'pO@J`%Qv@J`'RV@J`Y@#B;O)f@8R&",
  "ez@8RwW@'pO@8R%Qw@8R'RW@#AFwZ@#Bz&i@$LOT@0f^ a@#$jT@$?UT@#LZQ@0Ny[@#B0j2W@%,1h&s@8n#Z@0NdP@$",
  "$FY2W@9Hw&fz@8n#g@9I|P@8n%Qz@8n-yz@8niZ@#B)hx@+DoP@+Fr`@99a(HX@(H`U@99T#'W@)MxV@)Nlj@98i;v@<",
  "X[@=Qb@98PMt@M|X@Nqb@97e,y@-S_@.OasoleAle@#1=_n@#1*V%Tcal@8<VQ@$yS@%sQ@5&cT@qO@#_S@)+zTKmess",
  "ag@&_X@(SR @(TO Run@1$kW@#SP@#1-[_@5Gf]so@*^P@5FvW@,&Pm@*zT@+natou@%$5h#_@#I4xQ@5KUbtou@%B;y",
  "g@5Cm-n@&RP@0uT@5Cs&X@&gO@8K^P@3.ZVare pi@/'oRan algorithm@#6+o^@#)pU@#sV@4NTS@5DTRn@nQ@&EUS",
  "@$;KkS@(GqR@%Zdin@#IKmS@&'aY@+dP@+QP@5,_,wtou@$HIp'f@L$U/Qonnectga@(?RZ@JU%vgap@)LdR!nan&@#!",
  "zPss@#7&mSs)@#$iSz`@&GiRe filled in. It@'=RP@%VO@=YQr@'7dQz@,DtQone@#G1a_@#N>pV@#gZ@JmO@*qY@",
  "*cT@*rP@J`O@>fq@|Q@>f$f@%C/|5y@#LEo$f if@#7zT.@*-yV@0MnSQK@$<Ek/w@K]Q@$<Eo$w@#+S'dhav@%,hY@2",
  "$i^@2)kX@$<FwQ@#)gR@#17XFl@(Ms%|@6%d2Utou@%%Nw8W@>$Rp@=:P$e@$;Hl3t@%5_a@+Aj&S@/%t]@&7zX@/%eb",
  "@'yR@/%h#X@*8US of@&9yX@/%xb@&BvU@%#[Q@$AE^Q@%$QZ@<H[Pis@$9pR@'=ZX@,VS@%&!i'l@LAo)s@#1$v.n@+",
  "5y&[@L)Ziz@.1w_@%B5RU@(.x'OF@)&tXi@JrQ@#B$d^oloring@+3rXheatmap@$%IYW@24uQ@(0XV@%3qs@$.j#V@&",
  "e#i@%AKS2Wx`, `y`,@K)^S@$Mb^@%AKXZ@&4zP@$,+k[@Kx%[T@%wR@3'ZR@#=Bm[@qS@5?e:w@#MDe)e@%ACP#Arx@",
  "+!lR@/5S$U@/+vQ|@9*_V@2,bU@/.oV@%#fQ@#4b]r@AGwRby@#4P_@,AXS@,J[Px@/-iZ@9?sQ@8I^R@$bw0@4EtT@$",
  "nq@$<&iV@#JkXX@)lO@%AKo#At,Ky@#Ji%g@#4bY@#HUX@#4P[@#GvYy@#JiX@#Jhi@$ai@#JhU@$mq@#JhW@*vW@#Jg",
  "R@7EX&h@#0t[@##=|*x@7Lv(g@90b#k@7E]X@##Gp9S@.(bS@.*kc@F$_#t@,-W#_@/0^W@)/ZS@2(V[@%?=OTh@3<kb",
  "@$*/v%Uet@##u[dynamic@)3lT@5HxT@+AnS@(C_YK@$>Iq%m@)0V_1@)0VP6@**g^@-Xl@%>/w]@2QS@2ne@8?k(HZ@",
  "(HcV@8?n#'Y@)NQW@)Num@8?t;x@<[]@=Wg@20dU@*Nxz@MHR#p@'-Zdi@'9|S@1*rS@$LsS@#C0tR@#LBZb@,nSi@$K",
  "1tT@48dR@*EnV@M=WR@'D`Q@'EnP@#[Sis done evenly@#,yS@&JPP@6HXW@#cO@%qS, a@,/^R gradie@'/eR@#y",
  "Q@$1>eR@#ue@%!cUs@%_`@)GkQ@*JZY@((UZ@$l_@$,fR@1Ee]@/QO@4HSQ@2$oc@+6k%[end@+SY@'5hQ@*9eR@8IYP",
  "ha@7$iU.start`@#!*uXd@M*cS@&HT'X@$1)qX@'pO@4^Z@2DgV@%*sR@A]Pcom@#C?lR@5AoRs, if@%AcR@$1,UWam",
  "il@24YPsize@#_O@#^P@.&zRfon@&%%hR@*tQ@&Jt$W@'YS@&Jw%s@)AfV@(sU&,Kope@M7VP@Cw$X=@CYQ\x7dlt;@Y",
  "Rgt;@fSg@fTl@fT[]@WQ()@aR@WR(@jR][@WQ)(@aR@WR)[@LHx_@11pQ @'uS.@%kQkeeps@#D&oS@)7uT@&$;[QQK<",
  "@#DWS<@#RR@#QS@)9XT@#RT>@#RS>@#R[@#?lW@#UT[]@#HkP()@VP[@VO@#hP@'fO@#hW@&6|Q@#bP[0]`@%|T[1]`@",
  "(eQ,@(dQ,@(cQ@_O[@#oZ@%5WR@#pX@#oTOpen vs. clo@3?aP@*DzPs make no@1*XS@7?kP@*XU@%-rQ@1!]Pall",
  " vers@&8zSallow@;[Qcon@1<bQy@H-UQil@(mOransfor@4&|YO@2SS@2K|R@)!d&Uto@9CeR@#!rZ@5IlSi@#.Hk`S",
  "@'lT@#N&aU@)(b&]@'wX@)(dU@)Mab@#!tS@29na@#.iP@)T]@(sO@$D9W&gstep@#1ah@#*OR@+*XR@#!Eub@#I=ZR@",
  "#/a%l@/7[U@#/ff@CuU@.mSend@#/dWS@'lO@#KGV$`@#+nP@/*uS@6LUT@)5YS`@rP@#JXQ@$&0zRre@4KvTa@$NIhQ",
  "@'pOplo@MMpQ@8.aS@89eQ@&!QS@6DqP@$dT@$Qi@wT@$%5yUinvalid@GbQ shad@#PP@2>wT@$&hQ`@NWS@&<tQ@K`",
  "Q@$4$_S@&.[Y@-MwQ@%J;r%j@(Mbx@'+QQ@DiR@,AgU@LnRboundary@.EXR@)RU@=wT@.yQ@#^Pmparis@$LJsS (=,",
  "<,>=,>,<=)@$%FzUis expec@7IwQ@(GxU@$cs@+GWS@$aR[],(),[),(],][,)(,](,)[@$mj@5?pUtwo@5?gS@#1/x"]

def schemaBlock05 : List String := [
  "T@)&oP@&G]Q@-.aV@&HpR@(,XP@qR@->kU@2%]Xalu@N1VZ@$,OX@$,se@:KrMv@NQY@Nwe@:Kx,|@-V`@.Ue@$5*[U@",
  ":Bb#`@$6!wf@pV@$6#Q&S@35n%x@$6#s&c@35nnA@']O@2#v*_A@0(^R@;+d7T@$6=_%f@29S%x@$6>S&c@29SnB@']O",
  "@1'[*]B@MyR@$6CX$PThe `@$6AsR@%$`Rarpet@*+vP@$6AeU@51|Qou@#42wQ li@$AYX@$6AtU@;F[,w@.fP@;Fb4",
  "n@;<kt@5uR@;<q.W@$7(`%r@;<q#U@$7(`%x@;<q#Ub@;<q(t@:0i6p@#(mP@:0o#MS@9?uH_@$8-c)e@7>q)d@6+w/z",
  "@6#U9V@)6US@)8ki@5>o(H_@(HiX@5>u#'^@)N^Y@*!Zs@5?T<O@<b_@=dm@5?a%u@5?R%_@5=W$!Z@$)yY@$*vk@4=h",
  "-R@-]b@.b_svS@%UOMod@5Jnn@&WXCSV @#aP @#bO@#6WQ typ@&ZOmodel@$>mP@%'JfQ@ESPmman@*'YS@3*oP@$,",
  "5OQargs.Qn@%;1YQ@wPneeds to return a@(>WP@BFtT:fontawesome-solid-file-csv:@$]Rheader row to ",
  "stdout.QnQnVisivo@K>^T@,D[Q@05mU@&2)PSfile@IgP@&xPby st@$5^Pa sqli@sR@#5?pRarget@%0mQory@$gO",
  "\x7b\x7b\x7b@,:_S!% raw %&QnQn    === QKEchoQK@cR    Echo@$^Oll@)<US@KPRprobably@/;oQvery pr",
  "ac@%>SP@(DkSbut@%4:RTicely dem@DTPte @5.kR@#G<[Rworks\x7b@$yT@$1(yT@aR@'wO@$1$sT    -@$1)`Qc",
  "sv@fV @,nO@yW@#RRecho@g_|@d]  x,y@f_1,9@f_2,1@f_3,2@f_4,3@f_5,5@f_6,8@(bW@,VX@$,vP@4PQ@,`X@D",
  "#cR@-mRwe'll use p@#WP@&27XVa csv of processes run@>TQ@#5IxQachin@3K_Pm@)IlPat@#YO@-'jW@2tQa",
  "@$1-^Q@+UO@2SQfor analysis.@-ZX@%^Ritle=QK@#6!|Q_@%XS_csv.pyQK@#YTimport sub@uQ@j[@.ZW@#QRys",
  "@(lV# Defi@&:JgQCSV@5`Pto write@wTcsv_@jO= QK@5xP/@%hS.csv@*kX# @%(/eQ@#|O'ps aux'@;jR@wTres",
  "ult =@&eU.run([QKp@3;[QauxQK],@:wQ=@xUPIPE, text=True)@$xXSpli@#HxP@#64`Qinto@#IOP@vT@#I_P=@",
  "%RQ.@=VQstrip().split(QK/nQK@$TYWrit@(xP@>bS@nT@)VOr = csv.@[P(sys@$UQ)@xZ@rQow(@3cX[QKUSERQ",
  "K,QKPID@VO%CPU@WPMEM@WOVSZ@VORSS@VOTTY@VOSTAT@WRR@XPTIME@WOCOMMANDQK]@$iT)  # H@D^O@'^Vfo@29",
  "`Q@$18]Qs[1:]:@*OOkip@4$XRd@2:YR@$IXSps@*gQ@&sXrow =@+>eP@)yPNone, 10@$vO@+wP@3M`Pte@33_Qbu@",
  "#G1bV@#/pS10 @#:VP@,fU@)o_row@*aU@:pO@[RWith@*2_Q@MqPready@1FzP@+(jPyou@.+`Qo do@/BqQvert `@",
  "7eQ@7]P@7[[`@$4)jTarg@#*bP@M^Q@,IlP@9mO@9`Y@Elt@$eS@Ern-@;_Q@g]@&Yb@%_W!% end@MP_CSV File@9S",
  "XO@#;oTbest@BjO@)0aP@08zT@#(iWis@4yPore@(6`Ptic@BOO@$1MVR@#!BOQ@1;zPa@MpO@)vO@)^]Thi@$FOQ be",
  "cause it's@18wP@%(<jQllows@,nOto@$AZR@3CbS@$gOcsv@*9oP@+_Xcsv@CmSfile@>sR@?tS@0sP,go,up,her@",
  "AdU1,text,@%6[Pext,6@kT2,stuff@lP@YP7@1jbThen just `cat@4EVPcsv@#*gS@/h#^file_@oO@/ipca@8bY ",
  " -@#gO@(aO@#!qZT@3lRar@NkS@DnT@4UP@oPnd@0#mSread@+LdRource [docum@,5VShere](@%.xRdocs.@$RP.o",
  "rg/3/library/@GSUhtml#@_UC@L8jQdP@`Qargs).@$2-t%Xable_@%P[K@+tO@6+g[Th@$yQto@0*TPthe@KSQing@",
  "-qQ @#wOK@%H0jUK@$2,aT_]@#BgVable @%fc@%)FUR@$zX@$K#WS@#-;kR@I<fS@&0YPuil@-TOr@#>lSto ru@$20",
  "aX@'z]@51PRrg@$2.[]@.K_Y@%cO@.K_V@#EgX@#F]_umu@)CZP@CLp#Ourrentb@/(Zb@$>^#p@#KCzQ@-GxR@+?QP@",
  "*(mRalf@E2gW@&*PPs if c@'TS @#9IsT@E2^Q@5J`W@$2LdQb@/AmP@#KFeR,@&%8cS, @&7nQ@*9]Ri@%)MXR@#KG",
  "f[@#oR@$sU@$GcQ@&gV@)'|Y@%4bPmpatibilit@%4dQ@24jR@30jQools, how@3?YP@FfOroduces@3BlRbin bia@",
  "%6MdT@3iOs.@)QWmak@$<.fRpposite@#`X@%<wR@)vQ@0AtPs i@%.=dY@-pT&,K@'-]S@.P$[@$L&gQ@FCYR@$M8vS",
  "@-xzIf@#rZ@)JvTwe sum@$4/YQi@'<ePs@3&WQ@)wR @#_Q@&*pRleft@8dOigh@))vR@%hW@#xQlate@#tP@#sY@#O",
  "Q@#sb@./tV@*bS@#:2R%t@2$hS@*IeR@4mP@+`S@%7;RWby summ@&3nRbinn@4NzR@+HOQ@1#^P@(QR@1/nRentralb",
  "i@$.?rV@3xPu@#HbQac@$kRon@&GiQ@'%`P:@#7N[S@&&$hQhe@,YOnsityQK `histnorm` @&D>yQ@'#rQ@%*0`V@,",
  "MrR@%+*QT@%*UPout@#pV:@)7cP@/([Q@$YSboth ris@#9A_T@)HpS@3JyU@7YR@$0oP@:fO@#oS@cU @#|p@%$-te@",
  "#::bS@$>mV@GYU@Gy^Dashboar@#;)ym@.fX@#ZS@5FlQrid@$3?RVar@$:UTorganiz@#5dP@$<J|R`charts`, `t@",
  "NiO@%/-_Udown`@$3BYSgrid is@#!WQ@&?QPRows@1-jQcan@$3JPQ1 to n `Items`.@WR wrap@%8M_R@##kP@$r",
  "O,@#&vP@%8+|Q@$mP@#9VT@#9UR@5-aV@D<mS@#%XQlumn@.kP@GpQRow. Here'@%LhP@$2OQof@$:-mQ@(xO@$3-gX",
  ":@$3BdV@sS@#5RP@#6ORany-name-you-want  #@#/PY@$>mQ@#bQ@#5aProw@#6oT- height: medium@$/sUtem@",
  "#8pZ@']O: 2  #@YO@-OPevalu@EWO@*IPV@KaP@4NQWrow@#8zX@1?WQ@$3FeQabl@$3FeU@$mY 1  #@'LXPhar@%*",
  "3qQbe 1/3@#.aR@$U[chart@$UR@$3IcT@$US@'pTsmal@#=bU@'of@$?lY@.aR: QK# Some inline **@kR**@#E`",
  "V@#oe@%zVn@)YO@&SP@(U_: @$CYY@'_Wthird@#`S@$3I_%Zrow@$3I]u`Row`@$:$QR@#8fV@%7jYR@+2aR@2IfQow",
  "@#8k`@5)qT@>cR@?S_@#$WS@$M,xT@E6P%b@+:vP@%tR@,MW^@&6%QV@%/8t#p@0(U_@%,+kQo@#%`S@%n_@&/hW@%,'",
  "[]@*ta@+q`@(.WP@#Gf]@(/zS@#,fP@DcR@0%|Q@%2eP@ETP@/E_Pa@;^T@+6uSever on@1MZS@#8JYUpassed@I[O@",
  "$aS@#cR@KFZQden if:QnQn1. A@$lR/@$jQis@%+<sU@%;TS. ex: `v@%'`P@2*iP-t@#_Q@=qO`Qn2@#rUi@&/fV@",
  "%7hR@#2CiQ@#-VR`@|P_@2:aQ@(2XT@#!'ZT@(,tU@&'RQ@#kSwill always run queries agains@%)AtR@$XO@(",
  "VO@K`Qhow@(7kTlook@7;oS@:^R@'WP.yml` file@KkX@#^Q@C]O@&_U: local-@%=VPQn @)jP@kQslackQnQn@dO",
  "@LzX@kQ@HsOyp@`Xwebhook_url@'=lThooks.@uO.com/services/ap8ub98ssoijbloisojbo8ys8QnQn@%wP@$rX",
  "@&QZ  database:@&|Q/@rO.db@%lW@#SQ@Dl_@'iT@8Y#l@$0WSof@7=yPert@(9lSelse@#/VP@,bQ@%6sQ@Ew^A@#",
  "[O@#9;qS@,VT@%y#y@%IsS@%y#PT@#]P@%zP@<_W@;bQ@<Q`nsity@$!7k#d@#;ZQ@$!7he@pW@$!7e0t@1XW@GTV@$!",
  "7e#_@$O^@$!7bW@/IhR@%=gR@$OP@#N*OR@#'nQ@$!7o.r@EVW@$!7l>U@$!&_$r@$!&YQla@+7xQ@#$Do)d@J_W@$4%",
  "uLke@&F$lxlon,lat) pair@%9Mp%W@%iS@&F$s,i@$8Il[@-AT&V@$9-rT@5+pU@$8JRr@89Y(n@#<_W@$!1z8X@%*/",
  "s&f@$9KQU@Fab@$9:wb@%!%Y9d@#ALi_@#?Kq)Y@+SX@#B#gQof influ@-1kRone `lon` / `lat`@%:MQQ@$;8XU@",
  "'.WT@+/QU@(C^T@&.b_smoothe@&D(UQless@$5YQ@%%TY@#B$eR@8=O6Z@$!-h-Q@$F`&r@#87S%W@8FYC_@86Q&f@9",
  "qP' we@*/UP@3>OY@2/WT0@N4bT@%3.YXhaving 10@N$USf@#qQ 1@$0]Wspot@88bC]@)-`X@).Tk@88b(HW@(Hi`@",
  "88b#'V@)N^a@*!Zs@88b;u@<bf@=dk@JLOMs@NWc@#!Vk@7/o,x@-]i@.b_iagonal@4!Q|@%:=j&_@.$aQ@1$dT@(RQ",
  "@)%TX@,Nra@*cV@)^S@)|`@#55sQ@#M#|#P@%$&X'_@5)gR@'*GcT@%$&^)w@*jX@#5F`U@%$&[/Y@AoQinde@%Gxa@%",
  "!;p%TT@#C&aT@$KNST@3|S,@5NS^,@(MORdexed,@$8xW@=vT@/Ht]D@(`V@#M,^$V@*/xP@5*OV@8wU@:(TZ@&>k&ma",
  "@3.`T@'BfW@?bc@IPV@Hv#[@17t^@1,|Ungt@.>_P@9PY@JSq@&AWV@&;bP@+p&[@#+eS@6.kS@91]Ps[n]`@93oT@#.",
  "*VR@ApQ@$LHOUe `n`th@/MjT@HoR@/$^Rr@$H^T@$QQ`@#C=yS@#KkQ@-eSs@#N3]T@+wR(@#HPP@#UQ@+2qT@#HZR@",
  "'4WYV@+YP@%<&r%tS@$#SS@=mTwh@8HfQto `@/!iP@/9_V). H@*JXR@#XUfor@-Df`@#7la@#6|T@#7nh@%=<Y#P@/",
  "(QW@4Y%z@4TS@IgO@(FaPrang@88jP@%2G|R@:9nR@#AgS@HqS@9GTUed@-.rU@/9xU`[from@1iO, to@WO]`@<YQ@j",
  "S <=@lR`,@H'kRmulti@/(WP@K/eS@$#(|R@.MxPmay@.LzP@$iV@4)oP@-'pReach inne@$6YRis@%_b@3LcY@,sX@",
  "Ma%[@(hU@$!a%ko w@:HoQ@4<vT@3MqT@1+_P or@8&cP@/InS@gO@&%#wWM@'jU@#N/o-Q@B`&nhat@#'^Zfull,@&&",
  "AjRxis exten@&&9xY@#&sW@pR@By|finit@%!>hS as@0+XS@1&UY@?RQ@%=9S/]@*8j0l@(Gv'r@(FU(V@(Dbb@$-X",
  "'c@$-O%UEac@%=<SQ@.?hU@#)WW@$-t)W@$KDl`Domai@'/7t#O@)XP@.!f&X@#+xVa@3!qRgrid@/*OP@+%nU@&KlS@",
  "&`P@4XRgri@2(VWeemap@&<WQ@6'YZumn@8+uQ@)O'`row@(y#O@80lQ@#34p%|@Ig]@'9]U@+3VV@'u[@(D__@),mZ@",
  "&+`%|@#!q^@(CVR@(V#ZY@>fX@=sQ@>be@,LPP@>c)S@2*PS@>e(n@(|h@>g'U@'wZ@>i'q@(Xz@>k`0@>lf@#/S)Ysc",
  "en@'/&kT@>j(g@(yf@>h'U@'uX@>f'q@(Vx@>d`@#/Tg@&+^#P@#Li(Ternary@>f(p@(|h@#Lm'V@'wY@#Lo'r@(Xy@",
  ">l`@$<Xg3@#Lr)]at@#Lp(s@(yb@#Ln'Y@'uT@#Ll'u@(Vt@>d`3@>df4@#Lj)Yanke@$NDgQ@#Li(i@(xd@#Lh'V@'t",
  "V@#Lg'r@(Uv@>``4@>`f5@>`)Xgeo@#EbU@+4[T@gU@51ZS@(*TR by@4#mSIn@>IiQl,@+;nQ@%#+^U@:NcT@&)pQ1.",
  "@5NiP@)-bQit@/%_Rits x or @$PR@'0^Pnot both@Bu(g@,a%z@F^'U@+]V@?U_@+o%l@Is'Q@+k&`@M[`5@M[f6@",
  "#<m)Yunburst@#<o(o@(zf@#<q'V@'vX@#<s'r@(Wx@>h`6@>hf7@>hz@#'z'Orid@K_hT@,#YS@2(qPst cells end",
  " exactly@(,vR@$RQedges@%?BeQno grout@&)(qV@oO@#&g'`@*W$x@4g`7@4ge@%Mw)Yfunnelarea@#%T(n@)Oi@",
  "#%V'U@'x[@#%X'q@(Y|@>o_@%Mzf@%My)Yicicl@-)`R@>j(g@(xe@>f'U@'tW@>b'q@(Uw@>^_@%Mtf@%Ms)Zmith@'",
  "Kb(q@(ye@$2R'V@'uW@$2Q'r@(Vw@>b_@%Mvf@%Mu)Y@&A8TW@'-o(i@(ye@'-o'V@'uW@'-o'r@(Vw@>b_@%?Of@%>|",
  ")Yindicat@$;0gR@#LZ(i@(|g@#L^'V@'wY@#La'r@(Xy@>j_@%?Qf8@>j)X@;*vX@>i(h@(zg@>h'U@'vY@>g'q@(Wy",
  "@>f_8@>fe9@#Lh)Yi@%,Z(o@(ub@#L`'V@'qS@#L['r@(Rs@>Q_9@>Q_Email@#F-gq@&TX@.'rR@CJlRe email@BDx",
  "Sst@A(cQ@0JoQny SMTP@42WRr@CLob@#*EnR@CLhT looks@E;]Syaml@C#d]@C!P^@%YO-@%SU #any@C>jZ@D$|Qo",
  "osing@BLbV@#bO@%(;tQu@(vO: QK[ALERT] Your@BEjRTests Have FailedQK #@=BQQany @#F0OQ@%(M[S@$]Q",
  "o: someone@@your_company.co@D!_Qport: 2525 #@9#_Rport@#:DzU@xPhost:@&iO@#hR_@&]O_server@#uTu",
  "ser@C(fQ@$qPs_@bR@$jQassword:@FEaT!! env_var('EMAIL_PASSWORD')&&@EH]V #We'd recommen@?B^Renv",
  "iro@1GvP@?=PT@?oO@?LqPcurityQn@%(Do%^@`O@BMeT@)uOK@8YjThe@ELuS@3t[@C%VWy@BMsP@/vQ@E:TX@/sQ@#",
  "F9jR@$YXS@$(2mQ@5IfR@$]O@%hO@$VV@uQ@&x`o@)rp@8]Pto se@%0;bR@CAlPo@&gWo@$Y_po@;YP@$[S2525@$[_",
  "@2fO@&iQ@$hP@1vP@29ST@7|V@:PPnec@7)^P@%SWPo@#FAbV@1<sUhos@%VX@'dcho@%)!TQ@%V#`Hos@*i`@6RR@2f",
  "q@#OQ@AmPuth@02WP@%M+US@%nV@$tVU@$[R@+Z_@8nQ@$xp@#OR@$x|P@$[R@$x[@IaU@HrU@Id^Fill@'3g|@9!c$_",
  "fill @$hQ@2*kQ@$0Ld_fill-@vQ-@vO@$0Liy@HFl^@9$iX@)lU@(zP@)gb@#*mQ@&>3aS@;1e#t@23l$hW@#;0RQ@.",
  "AzS@BAZUs@;3g[@2:OU@(YQ@,bO@#*;nZ@&>&qY@#XU@+mPfill@5MxU@$)*gQQK@&3;pU@0?TXa@$)*wW@#sT@;6hcf",
  "@*a&dfore@*a#qreplace@*afdark grey@6*vPi@2*WP@EKYR@=$UPas@'3KaU`@2uQ@-LkXF@+VV@>Cd&w@+kr@40m",
  "T@3g#O@#<(hXF@)iS@#+'fQ@6-a$]@/OS@6JOP@&IMmS@$(Isd@1VX@18UT@$C0fR@D(qTto@/ZT@4vO `@8QQ@/jY@'",
  "dR&,Ksha@#2hP@34x%l@)PQ/@6#dT|@&%0fU@%,EsR|@VQ+@VQ.@35h[@'iO@8IRT@0XV@1E[Vno@lS@$C8wRf@';9WZ",
  "@<)[ZS@)lO@$1,T*Uof unit@'+CUQ@9'uS@,mV@?&RT@2!aR@$)#o^@;;]Sof repet@4LnW@#rQ@IIQaolid@$1A])",
  "z@*VR@7laS@mRis rough@9BzR@$6iQ@#LfSrea@#G'qR@2*gQ@,tS@#gSof 0@3.bQ@&4KkT@3GoZ@0(RR@%RR@>CbP",
  "lid@#dP@30zR@9FST@KTT@#d`@/pX@/hR@#8^Z@#7qZ@#8l_unn@4,Q#O@$)mZ@(8mP@E(O_@iP@&5As)m@':Nd*ynec",
  "t@#BtZ@&A1zZ@3pO@#G>XQo@DFx$i@';%[<]@DGx$p@DGTP,@#G<r[@DGwT@&/IVQ initial@dXpreviou@&5'SR@eQ",
  "total@DIR(|@L`P@':L[DW@KsQI@LqP`,@aSP@LnQ@#DxQ@eQTota@':MRMw@#DiP@&KJP8z@9WP@&KI|6z@Kp%Z@':I",
  "o5s@&>aP@':Ir#w@#ACdU@$`Q@$BwPe@E#SPb@%^Red@)8wUly;@4GyRonl@#2+sR@5FaS@#4zUr@&qW@(1mVvQK. Al",
  "so@8*wQing@J^P@L'xR@#&_Ply '@$pT'@%pR@M4WP@%9JdQ@#BChTQKy-@I2VP@B*TS@91rP@#7_S@?:Zj@$!c'S@';",
  "![h@':Ki##Z@IDi$labe@&JlQ@&K_#c,@#!FOU@&Kjd@&K_P@&KR#P@+%gPaph@#D$OQ@$0F_T@DHnQ@7#eS@#2zS@'1",
  "N]Ts \x7d@%pP@07cR@DChQ@A;jRly (pe@#&OQ@</TY@+cR@+oQ@';(]GP@&LXm@bT@&LUP,@%(XS@#$!lU@8Z[@';)",
  "f;Q@&LEw)x@&1u&Q@';!X7v@':Eu#7c@&33Q##a@-!]Q@-!wd@,:|T@>,uz@&!7O$g@-JbY@.+RS@#6!kp@&-GY$e@&*"]

def schemaBlock06 : List String := [
  "DV&Qif@/)YRor@#)$XSa@%6<rR@F/nb@:1q_@/uZ@0ld@?;uMs@NP[@Nud@?;g,x@-Ub@.Sd@'#!n#Ae@#AoV@'#!lDT",
  "@'!J|3b@$HpW@$Idj@M2W(HW@(Hh_@M2V#'V@)N[`@*!Wr@M2T;u@<ae@=bdare@62sP@:'p#_@#lO@:'tdarea@:'xf",
  "@('FYT@Hz&`@&iO@#.SSheigh@%=XP@$!VP@-2dV@'mU@'6/zQ@'z%j@+2ps@'|X@%BjQ@K(jRnd@(MvStop@.-iS@*>",
  "dV@(TS@9GO+f@JA`e@-#^%]@$MqP@9AmT@`O@9Aqi@94bRK@&1qP@#._h@B.mR@95d$j@4Hq%S@4G_Q@4HPU@#/=i)X@",
  "##TT@9DiDW@4FUP@-,XR`,@4F[R,@52rR@9DgV@9Db+msecto@6<mz@J4qS@6<h#`@I=zT@&6)XQ@J5sP@9Cw,h@6:U&",
  "p@0wP@9<l[@5aR@L<_S@&1%U%w@/pP@3&TV@&#=pS@%B0|Q@)HUQ@)8rU@5<xQ@,9VQ@#LXR@3&TZ@#MUP@'1SP@8E[R",
  "@3&S_L@)QP@%N-jS@&Cw&e@.[P@)]SIf@*^S@%B8XSare duplicated,@#4L|S@DeT@K)XSor@8JbRc@%7XPccur@.E",
  "_Qif@wT@#I/fY@(HkP@7oP@-AfQ@#&]T@L&bU@>:TP w@$E/fT@#7hPnon-@MYPentry amo@#7#iR@$xU@*EsSbe@/(",
  "aXL@*=oS@:!v(uarea@:!z9Sarea@:#Q6g@9Ai'gscale@#.i$O@B-xSare@8(jZarea@9+aR@#LhSsized@17^X@,,f",
  "P@8)ZP,@$;kPthem by@#6[Q@/JUR@#4xR@#/mPid@A>zP@0+iQb@)5|R@-yR@3aT@1Hp]S@(`T@9(s(t@#Gi&S@$:|x",
  "@=vQ@$(jT@9%zc@9%]i@#;0fRhar@)&PP@9'|%W@$2e&u@8Kp%^@&$z_@8Jk$O@8Ha&t@8Gtz@.SR@8=b6e@%FQ|@8<u",
  "f@$<Rw@)4P$k@8Ai:s@NF^&a@*2fZ@%4YR@&.aR@&14XVwe@%<d^@'L=PR@%9h]@NCQq@8Ha(s@5Ccp@(;cQ@(=rf@53",
  "zMy@NTY@#!Ph@54U-Q@-Y`@.[h@54^#S@IvP@#?f&e@NOS@%6UZnot@$9RT@5/yX@>TP@3:dQe@9bO@*)gRpick@'1TV",
  "@(vP@35n^@35jt@'*N]$e@/n`@2HYk@$;aT@;f#n@%9O%x@$5vQ@*Fu#z@.!|$a@*'oP@#B^Stop@?E_Q@`U@+L^X@%3",
  "dj@(hh@+3vS@(lv@?GsT@*DUaP@%5dY@*DY$b@%N]S@#%mPempty@<)OP@vO@(FyV@*EP&Z@9aT@:W^G@$''XQ@%'1r&",
  "nfin@%%K]R@-bR@$',kSfill:@-uP@A+QP@#9JsTradial@&%FeQ@'NFp^,@3-TT@'NHS[@5!Ua@*KjR@$.h%l@'rP@.",
  "FiR@'iS@19SR@'[Q@%Mz_@5tS@F0VQ@*[S@3]Rfi@==uQ@*:OR@+#h[@1wU@1ST@1q`@#5^#p@3b#r@/Aw#U@/V`fami",
  "l@%8;v#xHTML@KvP@#?=yQ-@,aSf@'9pS@)NdS@$'?VR@$LLdS brows@2'xP@`W@&%mQn@=;vP@#=<iSpply a@$hP@",
  "#FpS@&B3XV@#.]Pystem@%8>mR@#?3bRes. P@$GZP@'(yU@&YSies,@18^Uby commas,@E?QPdi@#HnPhe p@54jT@",
  "#(*VS@%hSfont@#90ORy aren't@%mc@'iPChart Studio Cloud (at@&![Schart-s@nO.@)EwT or on-premise",
  ")@#=4iSs images@9%oP@F2cP@35bRon@)XO@%7wP@$&jU@&RP@&-ZQtall@=,]R@'?_Ped@).]S@'$,[QQKAr@=:sSB",
  "al@.3ZPQKCourier Ne@%#!zQDroid SansQK,@`Uerif@qZ Mon@#kQGravitas O@1)iPQKOld S@'#IoRTT@dQpen",
  "@$SR QKOverpas@]QPT@#yPN@&EIOQ, QKRalew@.1sPQKTimes New Roma@%8=mZF@4nP@#?(t&X1@9qZ@E-bP@ASW",
  "@?c#p@Bq^Heatma@'?`P@+H[#X@$#4iQ@+HX_@$(-cS@+HUd@%M>O8h@;kQ@$=2V<O@.vPsmooth@*+pSfalse;@$=2s",
  "#_@E9o8r@$=([)r@#1SQ@$=([#7|@#8YQ@&:+h##n@$<G^Bg@(tX@$<El$a@$<Cz#Kwg@)*]Q@%3`&Z@,2PUg@&)%xQ@",
  "8,mP)@2GwTr@62pP@(RVgap@CGT#!u@$<IyIl@$#h&c@6%wS@$#fvY@$#fQ@$=!v$,k,K@,4kQ@<A]$Y@<MfTbe@YQ@'",
  "6GVUP@9MUP@#B&rQing@$/;|T@4AfPo@jQ@+;fS@&rX@&jQ@0Mbk@-CVR@-Cre@A+m(HW@(HcY@A+h#'V@)NQZ@)Num@",
  "A+^;u@<[`@=We@9;_Ms@NQ]@Nwe@9;X,x@-Vc@.Ueg@#-=O#_@-(zQg@#-=R`@lS@7>Q9^gl@$#:r>U@74m7^g@#-LX$",
  "q@'!4f+a@.gS@6+O#+n@$8:V#'_@57Q6i@2%^%g@4&u;k@2Cn8i@29y;P@29n$lg@(Kqg@($tU@29r(HU@(HeT@29t#'",
  "^@)NUU@)N|o@29x<O@<^Z@=[g@2:OMz@NSW@N|g@2:S-R@-X^@.Y`ightEnumK:!Ke@VO[KsmallK,KmediumK,Klarg",
  "@+LdY@#ZS@=a]KHistogram@2<S#_@#kS@2<S_@lR@#>+Z)mautobin@%-]a@)4`%TObsolete: since v1.42@#9GS",
  "Qi@0(uWs auto-@&5`U@#8/xUand@2BVPbin@-MYTneeded. Howe@ILXP@&N=mR@#OT@/*kR@#L>]T@#&.hQll@'<:r",
  "R`xbins`@2B|Tly@#HcRdeleting@$tV@#MIdT@#/S[A@+[R@+hT@$Lna@+h'O@-8dT@+hny@+hoy@+huy@+hoyK&,Kb",
  "in@<V$Sa@F;qQof @?kS@<dR@&#qP@'ZOhav@$9?fQtible@*iO@$6BpR@$/xW@#]P@J2wR@'IHeU@(|Q@$4AlRame Q",
  "@*=sV@(%KsS`@#:BiQ`@(:HhT,@)+GoX@$LxP@#:ClR@=NgQ@,#eP@?aV@)YR,@'%MzQ`@`R`@#:DlS@$i]@#:CvTand",
  "@&I3UX@BjO(@FDRV@CaOtype) can@(lt@*WT@2AzP@]Q2d@20nR@/4OPh@>MuR@$cO@&]T@#F`W@.bR@)+Ki1`@$7(g",
  "R@#<Vh@$7)bV@30h$f@2Mk+a@)+Dro@#=hS@)+Dx%e@%rY@-_#R@I!k#`istfun@(KJna@ANq#q@'>$iQ| QKsu@(>TR",
  "av@$$8cRm@'BKRSmax@L5sabin@'YO@'?DwS@EHOSthis@#)TZ@'=uQ@$oQ@'!%xR@rR@3A^U@.<ZSb@#%*uQ@)NXR@$",
  "6YT@#PQ@#%:XW@#3_R@/<^Ru@%L6oQ@&rO@&(iP@$4GVQ@&pO@$xo@*$OUum@#SP@%H;]Q@&K2mQ@%H=YQ@)#cQ@+MpR",
  "@-UQ@%pg@%?URive@#GYYH@-qR@.PQnor@&$6Sa@.P#p@B*ST@(K=xU@$8#PX|@$8$oW@oY@$8#]U@.l^t@L)RQ@4!`R",
  "@%BeU@.qj@+oRspan@M+jSbar@#AEl_@.bT@NJWV@*?vT@oT@2JvV@#=6U]in@'NAtS@(VT/@(VZ@%cu@(K-[U/@#A=m",
  "W@%rV@%L__tot@,-QW@'NDuX(her@0sQs@0`Pall@/sOHEIGHTS@$JuPs 100% / 1@&tR@+nS@)v#_in a@$hO@(;Ld",
  "Y@+!QVbi@$IXPrval@&QfAREA@&OS@'ol@+bS@0h_@7_Qrea@+[l@#bU@#;9iSv@%?ePll fall@#AhT@FNiXbin@&ms",
  "1@'?sXH@8_R@3A_,o@=wR@%M)PDVbin@2PP@%M)U3|@#?6h)X@$>Bn&r@#?7d)d@#=gS@#'6h8z@9ZS@#'6g6fnbins@",
  "$'DP%g@/8_#^@'&KVRbin@&N'YR@+9XP@$:6uW@.cQ@1;lS@#!1YTdec@($-iSptima@%$bPsize@4&yY@%5TTbest@(",
  "%,lT@()bQ@$;AZV@$&ETR@-CTP@0CZQif@',jQ@$M#zT@4+PT@(!yV@+yP@,VR@'+ma@,V*by@,VsyK@),>d5T@$*Q'R",
  "@),?`#X@#8tS@($Dt;n@#+([t@(<<P%q@#??m,Q@K:V&w@.6Z$a@#?5R/O@#MY#V@#(EX2^@#?2c;o@&75ur@$3zS@&7",
  "5n,^@7*v&f@(#.hV@)MwP@$?/OQ@J)Qf@7+c)jbi@&:2]Z@:vYXbins@#.G^$g@%99O;i@78W&f@Mmk@I&X_@78q)j@M",
  "mlY@Mm$k@%8<S;g@7$Wk@-$aU@-(l]@,*YT@-&p#g2d@-&rh2d@=Ayi@,Ll4y@$?JS-p@-+d$U@0?]P@,NxT@,FvP@_T",
  "@(bS@6&QP@NXW@)7<WRa@-#aVof@'I(eQ@&&ChQ@GZU@--dSill@$DMdRe@3tOir x-bi@#>JwQy@YPmatch@8QU@.Iv",
  "X@-%eV@>.s,q@/ST@$?Hl>V@-(k##e2d@-(mDVz@-(e&z@#'N^1X@#+wT@,DP8z@,CtP@(1C|$g@,CuIU@#(9_;y@#(3",
  "Y:Q `z@2H_W@#IIaCp@+4O/d@4*T%_x-@4#fX@4&gQ@)!]T,@(MeW@4#qY@%05gWs (on@%06aQ@4&au@$xZ@6;PX@4%",
  "cP@)%gU@$7OP@%&vV@3K]Q(1D)@'mU@4&kaX@*yS@+=Zu@3DQ$g@#(3]Bh@+DY/d@#/w%_y@#/wa@*/uT@#/w$R@$xZ@",
  "#/w_@*3RU@#/w#]Y@#/wV@+Mer@#/w$g@#'?lBf@C%q&fa@'0;XQion@#&Gn#$R@-*cW@-,tg@C/R(HX@(Hg]@C/T#'W",
  "@)NY^@*!Tq@C/X;v@<`c@=`i@C/]Mt@NU`@#!Ri@C/a,y@-Zf@.^i@%>9PV@7(y#d@&,%kf@u]@7)ZBc@%?/g+^@72m3",
  "o@4RQ@%>Ih5d@5z_@%>Im.V@76v##h@#0TQ@77P#+s@#,QQ@%A.W9O1@77T$h@7:nLm@%AGUGc@)#O'O@&-!q9h@7JQ#",
  ":O@7DR#)t@7=U#3l@78[u@-9rT@-<en@78j(Hc@(HnY@78q#'b@)NhZ@*!jx@79R<S@<g`@=nr@&+'r$+o@$,Zf@$-]p",
  "@9EoNQ@N]]@#!ap@9FP-V@-bc@.lg@*+Gh$(X@$(f[@$)^m@*+Gt$#f@$#y[@$$qg@'8zNO@'8qr@'8h-T@'8_x@$D(l",
  "#Ae@#ArY@)E)`#-]@$MgZ@$N^m@6A^(Ha@$D-i#'e@)Nbc@*!au@6AT<Q@$D-rr@#8Az]@=]y@)E)g)^@*v]@+og@)E)",
  "i*k@*x_@+s^Icic@#$j#O@03iR@L2URi@#hP@&l[Q@iQ@*+JOfranch@$=8]_@Kf#xemaind@$;1xUta@).,SS@&0uYt",
  "@(%'QU@$B$dTare summ@)0&pS@$;TS@%)ISS@#Wataken@BgQ@%GhSall@'70iQscendant@$0)aR@%+*jU@&QS@$Q_",
  "@/Ll`ro@(MMXU@*TPe@$BHvS@%X[@GWPtra@H0TPnot@H0^X@J.Y[@MvPir lea@DAYZB@,kV&,@).Nyf@IDV$Q@'jR@",
  "#AyP@%uP@)C'Uf@-gT@6L_Sor@*UTwhen@.HSQ@#KN]V, by infer@H<pP 1@E9lPac@*%bS@$sU@-<^Q@%gX@$02WT",
  "0@,2bY@(A(bQ@$#Ag+c@$DBgs@JP$g@$DBg%d@%/8nT@&(NhRpat@(A5RQ@%*;XRro@(A6PR@aRent@&4lP@%*<hUar@",
  "$?AWj@J-a(_@#$pP@$DCuDW@MRQPath`, `root`, `@LjO@%*;SUR@gQ@^QE@nO@'#QP@%*<]R@M]O@$DDk?d@'%o&f",
  "@0_Q@3BsR@$2VR@7mR@9!fZ@JEpQa@3-yY@.:cZeaf@';Fg$h@JCbw@#BRP@JCU8Wev@$G4b%f@*E_y@8GOPfro@$=Br",
  "R@23qUhierarchy@8?nPnder@%D<wS@#ZO@98qP''@*LpPtart@$#gTroot nod@1MhT@#qR@%B?[WQKidQK if `id@",
  "(9wP@$<)yS@%!SV@(>CR^fi@&$+QQ@%B9oY@$E=vT@,^Wv@%C-nQ@%Aqm@DaP@#>*g$maxdep@21R$_@)3n#S@/YW@(M",
  "RT@.gR@%5bSfrom any@$!/RQ@.yQ@/YQ@'_R@-B^Q-1QK to@#hQ@%-NcS@9#XQ@/[]@,M`V@)PR@).Fm9f@%/-V&z@",
  "#JbV@#=<VV@#JcR@-?lP@%PO@0NhP@&,7kToo@&)VS@#$PT@#7[Z left corn@EUPa@%ABdS@$D+`Q@'<Kq]f a@#tU",
  "has@0KkT@#%OSs@)1xQ@%eQwon't@12zPany@(LXR@2sO@$'jX`@$44|Tused@$?H[Qare@#==^[@$!h&V@'=!]R@MXR",
  "@&+nY@$!qSEmpty@$;VR@#<yP'@)9fP@%.aPtoo@%CFdT@)CJZR@#-uhI@#-c[, `@)|Q@>xP@*<iQ@$VWbe QKidsQK",
  " themselve@$4BbS@#rR@$DEpS@#.zc@#.xW@(9,ZQ@#.yP@3+nPbew@%&bQy@.IpSuniq@,0bY@$MRPs@04mQh@1+Qk",
  "@#/pPP@yQ@#/q$ero@&%BTZ@&+Dh[o@',Y$f,Ks@%6FmQ@-/[&W@&GkVr@$&SPe@&,6lQlargest t@#<LeQes@#=KXY",
  "o@:8xQ@$E1l5c@&Au$S@$E3Q$y@)&w#h@$AMjt@)'qT@#UV@aQ@#XW@cQ@#[V@$J)]S@#[S@aQ@#[W@cQ@)Ay_@)?:VY",
  "@(0pPext`@%E!aa@$E4n6Z@&6w#Z@%/%UU@&6tP@%/$p#Ptil@=5v[@,Du[l@'?8Z$j@$E5o?m@#JO`@$6fZ@.8iT@)%",
  "eV` @(C3kV@)!jS@3-cU@)!_R@6GgZ@$E6h*Z@)2^Q@)2xd@6BzMs@NP[@Nud@6Bt,x@-Ub@.Sd@6Bn*i@rP@6Bc-e@(",
  "XP@6BW#l@/jo@6Ay)^@*Yo@6,zo@#kQ@6Ac*^@,X#m@6?y(k@4o$W@'FN_-q@#5hV@66d$t@%)S&e@$5yS@'#sU@*(TX",
  "@$FLk$Z@6>^%W@>`o@6>R0W@-(z$g@60['W@$&Op@60P+X@,Uo@6/rl@$:hW@$;[j@6/l(HW@(Hh_@6/i#'V@)N[`@*!",
  "Wr@6/c;u@<ae@=bd@1!tR@=Uyedge@%E8Xp@5]#e@K+hY@YQ@%E6^R@%E7XU@$;]]ich@%E6eQ@%E5eV@&_O@#+yS`ba",
  "rpath`@'3b_E@'^S@:t$`@:hn@'#+_Ss@&&7^Q@'9pPe@&$1bThe `@1.oQ@%EDuV@1?cS@6Xd@..Y&i@K/qP@(OR@-A",
  "tQ@'FU&Y1@*%6xX@'FVW@-_T@$0XS@,%iZ@.ZW@=rO@NlO@#-<lS@%M[Pith 3 pixle@2:QR@)?sU@,(SPi@$#LjY@'",
  "FzW@%9%`&R@'LaPth@%A'cXi.e.@2'tW@1-bQ@&2OP@#36nRth@1jOpixel ga@-MOX@%9&Z_@CWX@Cy_m@'>(`Q@6<q",
  "#Z@#gO@6<p_mag@6<of@LXOm@&>ERS@#+p$Tgb@$0gRgba@YU25@)G/xSs@LE`Ssl@F$YS@K_O@&=?cQ@(J+tT@?WP@+",
  ";pT@L0nS@(FzR@5%XT@#(=vQin@(&DsR@%)DXQsour@*#(TQ@,8dW@&;,OW@17[Tt to `@&PQ@)!EeU it@#-PW`rgb",
  "@&'AuZ@*YS@$8%f/Z@=xPixel@$DTX@*'!`[@$8%R%s@&tW@$0rSsiz@/;SW@$8$i%_@;bO@69OZ@2$uQ@67g(ymag@6",
  "7fDXz@%(5XT@19wUmod@+0Le'h@&AS%|@$N1V+f@&Aknmag@6!g8W@%+1p9cour@*&1XZ@&(h#j@,?WWdata URI@%dR",
  "image@9AuR@*)(mS@IWPURI@NJvRs@$:OPdata:@#UO/[<media subtype>][;base64],<data>@*$cXS@'VP@$8Fu",
  "(R@$8AvGt@%>fRimage's@%$kU@(-nX0@(<zP@'#2g)d@/Q&n@(5fT@(#jX0@(2uP@'#8O-uA 2-@%&+b]@%'FmS@K<|",
  "P@#7UP is@$GTW3 or 4@$F|S@#!G^S@1%|P@,)O]Z@(yO@21O[@)O%l@(wT@'qOdef@$HlP@6MyPgh@1LUS@7#bS@&K",
  "`Y@(%rZ@*8PX@#3+|Qpen@#/=nS@%4QT@+J|Pthe@&JUP@iU,@35kQ[255, @SR]@#SXa@#Tm, 1@#WZ256@#Zo@$fYh",
  "sl@#X`36@0!sU@#SY@%ka@#TW@%kP@/^V@#.#oT@&<%n%|@/ag@2,gV@/`$i0, 0, @+jW@/Yd@|Q@#Q^@/Sc@#Ta@.x",
  "c@za@%Vn@.lW@$7It%md@7(eP@#D;uY@/*sT@&C*ZRfor@$2zR@$'+]U@%/(gR@'7YS@(=ra@#D=as@'BfP@'CRc@4Lx",
  "Mt@NOY@Nsc@4Lv,y@-T`@.Qc@&0+f#Olay@&0!m$Z@+[O@#+xRbo@*,.VU@%GgS@$NOR@%)K_Q@,-[T@0?bPor@(BC]R",
  "@:xQ@$NCOQref@#:$]R@YPre@1!UP@(KgRpaper`,@#7[Q@)+mS@&B.kT@%NEiRlot@25s]L@(kO@&.4T-Q@&1Z&w@3f",
  "O@&1Zdiz@&0'Ub@'/z%[@8UP@'LSR@*$7qQ@%H1_V@&2mP@vP@)6ZSize@**#mY`@$+GjT@&,WQ@;[V@,4QT@:wS@48h",
  "Qr@#qR@-K^Z@#%>^Qdth@#nXe@.9jS`@.)ZQ@#pnaxis@#pR@*-dWze@0$tPiz@(B5kb@+x%q@/)bV@+v#[@ExP@+v#V",
  "h@&<%pQ@#oV@+w#X@#qR@+xY@5uR@#'B_$g@*fQ@2.WRtretc@$*&TT@NsUich@&-<aU@&GbZ@&7tS@'OZ@$!mQ@&KV$",
  "_URL@&KQ_@:-oP@&JxPL@2;hT@&3ST@(LcS@.?hQ@#%EVT@-vOcode is run@#=zP@'4iQ@.BYQ@-[Sor @('MbR@9D",
  "VY@&KvT@)K;W3t@#9VS@MGSj@-(g%f@07ux@&7V_@#&z#c@H]RSee@#nR@04qW@-(b%qe@,<ZR@20sR@-/jU@-#tb@#!"]

def schemaBlock07 : List String := [
  "*dc@&g#p@+UO@+ATR^x([2-9]|[1-9]@/qP)?(@GmQ)?$/@&y[@#M]P@&?RY@&1fT@48[S@&?PP id@0BaQ@&?UPor@&",
  "=nQ@&1vQ@--oW@;.oTa@$TW@$OV@&`S@#ch@LTOistanc@LgUlef@%._Splo@#<$|Qrea in@5/pV@&3|V@MhP@*+;`Q",
  "QK1@N9OX@$dS@$QO(@-wO@BsP@'|ZID@5)lQ@'1nPQ@?(cQ@0FvP@%,(sU@)LWQ@(fQ@&zSbehaves@0EvP@3EiP@'|S",
  "bu@)-&YQ@'n]in@(>YS@10qS@#%eQ@$=yQ@(d`@/DuVat@&`O: e.g.,@,TO@/GtT@$nY@/FSW@#&IwQ@'sQ@&>`P@-B",
  "YX0.5@#eY@*11`R@&AVR@%bQ@.FrR@/;SQ@%p]@$eY@&KWX@#!9XQ@#Ne%f@CQ#S@&KVV@#=U#kSee@#nR@CQd@-1]%e",
  "@CQ[@'$zc@-,qU@CR$jy@CR#X@$B*lW@CR]@'&QP@CRVy@CRRy@CRU@-6nV@CRV@$TV@CRg@#ca@CRa@0#kQ@CT#u@#!",
  ",_Rtop@CTY@(PQ@CT%h@(fX@CVhy@CVy@'uQ@CVP@-KYX@CVo@%dQ@/:OS@)/KVT@$ef@5uX@CVO@%*SZ@&1JnaInclu",
  "@,DrQ@&%*Vu@#XQ'@6DrS@-#zSreak apart a@&HBlSf@)HRS@'9vS@4?|Pther@mO@),#|S@*/'mR@dO@+qPremote",
  " @*DbP re@)lOories.QnQn[Read@A`Pabou@*/)XU@2YO]@#GgT.md)@&$Mr[pa@%N_P@;chT@,3mRor gi@).(wU t",
  "o external y@&%-pQ@&|O@%-'[R@$!xR@(RQ@<)YW@)$!PV@>zR@+zV@+_Q@+z`@&&CsQ@,3t#_@#kS@,3x_@lR@$2>",
  "dj@#<^%Z@&?ug@)AXQ@KAZU@+5g_@*-:sX@%*VTi@?%pP@*EE]Qgau@%6QQ@*IaR@&GHfTcase@'%lR@&F=iQ@&XP@37",
  "RX@&A`S@)M/^+dl@+aZ@*BRZ@4lRD@zO@*Ax$e@AHnt@(4/t$e,K@4fO@)ZqG@zO@%n$`The@8WQ@vQ@%WS@)D3iQ@+)",
  "f+f@+yR@+)jKP@1Kv#q@&#;tr@3QO@-:UPdel@*M!XRgaug@#=/`b@CGRb@1DSQ@,=iV@=0oX`@$bP`@*3/nT@#YT@.+",
  "ySl@&$^Pext. `@%ZO@#RY@#+$gX@)CUV@$xQ@#aRFi@,EyQ`@&kO@$n`@),%]Q@$nOo@1UP@$/zZM@1GvQ@<pQ@#(ip",
  "@-)OP@D.X$g@#,]u@%3-_=k@#Et%q@;WQ@0'vQ@&6:ra@#%FrS@<Cy*U@%%SU@%'ae@$>cP@%'fy@*!Nyr@&IEha@#!T",
  "$e@(JQ'R@)6aY@&J!iU@)-yPlta@$>zP@*!3rq@,Q$|@>GR$d@&-rZ@:gP@*&U[@>Dca of@*YQ@1#]_@79aR@%=ZV@4",
  "&pU@31r$W@7=YQ@<kP@4#_P@MXS@&XO@%jX@32QS@#>xS@I]%q@#C|Z@*31bY@'aQ@&'-yV@%;YP@&-QQt@&KL_U@,Cs",
  "]@:JlS@(dP@$5)V_@'>q%[Show@&DPT@#)RP@&wX@&jQ&,K@35u$W@$[P@0xU@$.LgV@0y]S@36US@+VO@56h$Y@4KSS",
  "@#-9[%vV@(kU@&*eX@#$dW@#%Yg@%:bP@*I[z@)H,jk@$TXA@)H=k$j@;,jk@%pWB@;,g$c@##gR@4PPa@$$SQt@%AvR",
  "'@#<LxR@*IUv@*Bl#Q@3jW@%DkP@*GvZ@:)[$v@*EgW@:#a^@&YQ@:)t'j@(b#Q@8&[T@1Hc$]@&;vQ@#-`Rulle@#,u",
  "V@$%mP@&(/^V@0zP@72|W@1GPRte@5L[s@8qXS@#[O@5L_%d@%nThreshol@$.Bei@'RXT@#VS@Bo$c@Hu_@HRP@Hul@",
  "FoO@#LWz@:9fNy@:)g3^@)8>T&y@$?yV@&7FOR@9NRFh@9=k#+e@9(j#:o@.#i%qA@J+dR@)6/mQ@.+iR@.L]Thil@+)",
  "jQrv@57rP@)61ZQon@$=oQragging@)JTS@C5iR@#4jP@)K%bY@&=;hU@&;jQaxis@HKOV@)3VP@6Fjk@'0i]@'1cl@+",
  "G6R#P@$6v$W@0Hncarc@#*(]a@#)4eq@)'e$g@71k%n@/:|s@=(s[b@$/rR@&-AnZtotal@#R]@(#Q]@70`U@2]d@+;*",
  "db@'Ky_@2^)u@&<<f1`@&CZ#O@&<9[/^@#$^)[@##eP@#$`l@(IYT@1,rz@&#<Zp@N.s$h@/Q&z@)'[S@?<TP@/]a@/V",
  "x@+/X%ta t@'sR@$HZP@*C4rU@?<S[@#4'y]@3ac@4`g@1Kz,y@-Xd@.Yg@,5]Q@.O(T@+/xema@2;dT@+&l$x@+*[_@",
  "'7WT@*H]$t@%j^@*H^)f@7xQ@8og@:Fw#R@/!]&O@-9dP I@91SY@#yP`@':[Rfor @*3fP@''9xQ@aO@%:9|S@#^V@'",
  "(#p]@.N]S@+NW'q@IsP@L^$g@&4)eV@L[r@:=Peso@(8G`Q@/6_#_@#lT@/6`_@mS@%$A|.^@%8?x[@*HlZ@/`SCap@*",
  "$Fy$i@FJ|'q@IA[Q@(=Cy*Z@+D'_V@(=Cv*R@J%ZS@(=Cs(p@1eb@FD`-r@##YT@#.+s'd@(=Cv/Q@#MIe_@'0?ma@$A",
  "=T.Qflatsha@)D'ad@#Ag%o@*2+fQ@66QT@#9:qU@#/2lReshes,@*&3[T@`P@*5yQ@18oS, low-poly look via f",
  "lat ref@$;?`T@)lUF@)^U@#L+O,n@#(eT@)93y#(|iso@%%Z%t@,IhR@#91TR@8!PPso-@#-sQ@2:XR@'[U@'TP@'_Q",
  "@$HT%s@#N3YR@'_y@$FaP@#L9s(o@#:uT@(>,S$#Rli@)?1sQ@$$VnS@#OP@#5S$espacefr@*0b[@%uYS@vS@$;K_$g",
  "@(/VV@%md@sP@+,u$h@(=Iq&`@.!QP@''3o>V@*7^]@,Ak&V4t@9!YV(@#6yP@+pR@DpT@3Fk`alue@#I-c%Q@(,cQ@(",
  "=:s'Q@*hZ@#L0S.VX@(<*|a@8`P on X@#L0Tc@#K>a6sY@8XkY@#K>bc@#JMn6sZ@8XkZ@8X]@(=*z2|@+)pU@+*bhC",
  "@*HmR@&B!r#W@#M2nZ@$>KZ$h@%^hY@%^$g@BkY@%^YZ@#+Ls$p@-jY@.`i@MBc(HW@(Hf[@MBa#'W@)NW]@*!Qp@MB]",
  ";v@<_b@=^h@G,^Mt@NT_@#!Ph@6/i,y@-Ye@.[h@/,PQ@,*V#l@$)2u$h@,*Vi@%^$g@,*Vj@#61q$p@-l[@.d_te@%'",
  "Dpm@D+t]Item house@'6mPchart@';8ZQ@%vO@';8YR@$aP. I@)N,xQ@0GZP@)IVV@#IUS@#gd@(3bQoccupy@#7cR",
  "a row. W@';4W_@I,vS@7DsVrow@';LiV@'>(`Q@%RS@%&F`Q@8,qP@(5fR@'(kSweight@D3xP@&=KxQ@+<YR@*mO@$",
  "1/nQ@&PR@'6_Ptake up 1/4@*KwTrow@NDjP@#!+_S@$>]Q@B1uTleft edg@18yQ@(WP@#RP@)_O@#|`pa@+&<wQ@x",
  "Psi@$&vS@E2oW@%nR@43pQhar@':]R@#yT2@#wbto@.KOP@#vRed@CBXTrow@(dO@&GCqTit@';8eR@';6iZ@';8Tw@#",
  "_Z@';=wU@';=uY@';7fZ@';7^U@';<lW@&G;w_@%IlS@6yS1@3X_@(16hW@3fO@''`Uis@';Crbthe@';CvZ@1xP@EbU",
  "W@$xO@7RS@#0dU@(WR@IZ#lM@1dRt@6FfQ@DAyWe@';JgT@%oV@#WRK&,K@)mO@%^X@)N3Q$SC@$kO&]@'a#O@)NNdR@",
  "BSQ@$.yR@0ZQor@0<iP()@5'lPchar@&GFtW@$oQ@'=/`Q@'h$bT@$kO@'h#ST@ApP@'hp@'=2cR@#'^S@$nP@GlVte@",
  "$J7g`LataxisLona@,23Y#Q@,BY%i@?<`Xraticu@$CuQ@'7*VQ/@'7NrS@'.WS@NKeX@,$wR@*)!f$[@%rVstr@#G'b",
  "S@%bW@**#Q-v@.s^@&BVe@**#SW@9-]&w@'7A_V), @&G>gS@*#>ZQ@%(*^Q@%!%zc@>!nT@*'Hy%q@(SO@*'Hs[@.ZQ",
  "@+(qU@#4RQm@##)zY@*'GoV@*,t%i@3ef@*(rV@Eb]@)Nx_@LpU@LWZ@L|`@*!9[S@Lr`tru@%0u]@,4#]X@#KYh@,4$",
  "][@#Nw$e@%zQ@A.u]@%vahap@1-f$h@2?fT@)8_r@,QPA@#YU@)8`%S@58QP@2E^Sis a@1.zW@2HlW@)<-eRny@'<.l",
  "W@3HpPi@vT@#LWT@&!iZ@B1pT@/$]U@#jU @)'8Wa@,1hR@#H4TQ@/%l[@D1YQ@+`U@4=QS@+-*]T@&G,aU@4+eP@)>V",
  "^@+kYauto@#M$Ud@1Js%q@2IyQ@#KqQr@&.!fRtha@.iPbeen@$(pPun@#;oR@74eU is@&A,QRiz@$)uP@0RO@*G'rR",
  "@5NtW@*)'dZ@F1[V, a@5*nP@$YP@%bb@F0lT@$lY@26[Uall@3BsP@4*UYA@+tR@*-7t)y@*#MvR@(IP[;@'>IdV@%G",
  "7mS@5<[Qden@)KoQ@*,>_S@+=4f[@*-8s`@$,-m)m@,OR@$,-ub@+mPterpre@G9`Pn@*6_Sing@*=eQ@*GHYQ@%)=aR",
  "@6t[C@$,.oUcl@)4o#t@6/sqev@&-NxS@#)wP@#3:U#Pthe@)5ePof@;IhR@6,XP@;HqUs.@$cT@).Zaand em@)!.fR",
  "@*H&VR@#lO`@5;TP. I@;)]Vh@'>IOQ@#X^@%$%UT@5<bPin drag@#QOs@,(iPso@'8yS@'kR@%EwP@*CyPo@5=pVat",
  "tached (k@9&^R@'?3gXreasons@+'DtS@)eSflag@'=IzQs@6FhRng@(mR@5+pVvia@*GJzR@,$jPode@$NyP@3IWQ@",
  "2+aU@%$.uV, mea@L3VQat pres@?QOShift@4<dQ@*H>kR, ad@GHjP/ subtract@#5BTS@'<I|T@,59TU@&jU@(E|",
  "Phovermode`:@HCZQ@#&dQconfus@$[O@..VS@:GbV@$5C|Q@#dYcloses@')QS@%*xRis@'B/yR. S@6MjY@-#VQnt@",
  "$63gWa@$4gP@*NwP@/|R@*mO@)#$oT@7KtP@&I;jR@w^@$0CwQ,@0eZand@/nc@)4pT@6<k]C@8_S@7NSe@#6i`@7E`V",
  "@7DP$|@73V[@)*2`T@%p$jw@#J(WZ@$>g#dlist@FY`@#/8gU@8!U^w@',,OQ@8GpQ@,0X&]Placehold@*;FzQexp@'",
  "+NyQ@#*ePrgin-impa@>PP@)3ZQnamely `@oP.t`,@ZSb@ZU@#3>uR@^Qr`@,9OPfull-@):5zQ@%'9h[C@)vR&,Kda",
  "ta@2Nj&eIf@#9B]Ua@2;vQ@8'XSells `P@66xPreact@2;rQ@4jV@)<eTs has@#gR@GkQway@;AcZ@|Qin-@50oPra",
  "@+1]Qan@;AxS@62gS new cop@5GcPan incremental@4.lSIf NOT@&iU@&RYassum@68nR@%|Vare be@EpO@#8rT",
  "immutable, thus any@#WU@#(QR@2DuUdentity@JiPits predecessor@31RTnew@#J0z]D@/aV&,Kdrag@*A^$]z",
  "o@+/aSp@#4OS@NaS@-/RQs@*BTRdrawclosedpa@%*GdSdrawopen@bYli@/0rSdrawr@#uT@#iO@*M<iVorbi@(,vSu",
  "rn@*jO@M-PZ@#/vbdra@=)dWs@#%rW@#,jP@#,xSpply@-9iQo @7NjQ@$6FRTth@7MtSo@1+oP.@%hU@#nP@%jV@#rX",
  "@41VR@CnXD@,eR&,K@3)fV@3:U&u@3(w`n@38e]@&L$[W@=1pQ@'-iQ@'1xS@'+uQxi@'!hQs@38in@/8SV@*`V@::R'",
  "U@%$SQloba@,>TP@(6ZVfo@(5QS@$)yR@*QP@*mP@*%6oS@#&(uSinheri@#78yU@$OWK@*$$k_@#2R`Geo@#.W$f@%3",
  "g]@%ha@%/SP@8$P$deigh@/6t&R1@%DrXplot'@K=cR@%Dg`H@'aP&,Khide@K8nP@.:Q&X@%'YQlink ci@$65mSdat",
  "a@'BNeRis@%'eS@$0PP@)(jP-@&MWPcore@3JVS@<JuP@(>gP@N'zP@(>lXon@&E5]R@$KtQve@$KuP@,69kTvia for",
  "ked@zR@7jS@&'A^#d@,gX@,]U@7=SR@IIdR@,.^&S@(-Pb@IN`S@$E6eVto@8IwP@-*oQa to ad@8?hR@(,pQ(-1@%&",
  "7`Tcutoff, 0@bT@*(JQR@#hR)@$ImT@&'HsQreal@J*QUor@8CpS@#5BvS-lik@*,<[S@-JqQ@#)hR@#5CkRFor are",
  "a@|W (b@0AlP@#OQfills, etc)@$]T@%UO@#9+qVarea@GSPff@%%AkTb@$AsPs@$ST@*J-xSsupersed@(3WR@&V` ",
  "i@;&PQof confli@%&<lYH@/uW@8Ggu@EZP@8Gc$u@#:s$]@&K6vR@$6HRR@$7zT@3MpVx unifi@)%:^Sy@_U@#8hg@",
  ",ZP@#8iXIf@$^V,@#9L_T@+gT@8?^Q@3MoP@0&fR@%gV@80WP@IIqU@$<dP@-]R@#!NvSQK (@J>]PQK),@6+iT@$bT@",
  "0bQ@$cU@tS@++*OR@C]P@$vVx-@#zOy-@5HPV@%Yf@'%'[Q@61vPve@#uOat no@$$JWUon@'ud@&DEOS@&vR@*mU@'Q",
  "Q@aT)@)mm@'Tb@'RQ@'P#O@'O#i@%$rU, spike@$$#hT@).2eR@%K,xUperpend@02kQ@,NdS@8<qR@,<[S@'1zP@0t",
  "^@/4lR@).4Z]@9^O@#EsR@JMuP@E9sr@J=oQ@-Dc%d@%pP@7:fT@?gn@(?yP@70Q$g@'A:fT@%miM@xP@%m$grg@J&ij",
  "M@rO@77])p@76ng@&,NcR@76pj@&:vR@76f#S@=kP@5AsPin@83pW,@77Wh@77V#POne@4KSP@73qP@71hQfields@%8",
  "lR@9GqXs:@76hq@76aj@hQ@$sOls@$$!cR@1YQ@7,tV`!key:@$KcP@$fOich@+`R@&TPed @%[Qkey]&@I,Tainredu",
  "ced@#NU&W2<br>M@8F|Q@#MyQ@KBUU@$AOSgin.@%-iT@:9XS@+0rR@14vX@(`X@(tW@'Jp&V@(sW@(FkW@(r#`@ILjT",
  "ode@;:zkM@sP@?8a$hew@':Qq@KbPN@#QV@%y$i@':Pl@%uT@FDyQ@%q$cpaper_@3A]$Y@*Gxc@%OO@MJxU@.IsP@*-",
  "An`P@zO@*HUUplot@&_$t@L0_Y@35pS@,8L|X@&fVlot@&eW@+HD^S@.iiP@wO@7)p$f@7Fk]@%k`@7>rR@%k$d@8pO@",
  "'E#f$b@1NlV| QK@)'?bSn@.2vS@LM]P@%EOR@-8QX@&HbT@:6_Q@&JYS@;=XT@L3xRra@;>VQ@&*LhT@,7sSor@'0GQ",
  "S.@%aQ@$8XPllow@#)!VX@#|R@)+1hQ@wP@#lR,@&bQ@dO@'0HxTnd@&rSset@$:|Pim@'E,bY@&ClP@*oT@+US@6IuU",
  "@%>x'`@%)0fY@&MxQ@*NhU@)[[@(uV@)^V@(.ox@#nS@G;V%g@%sW@2$eQ@#41x[@)0r#s@0%jQ@*/|P@2&gP@2'aRor",
  "@0$m]. QK puts a '.'@$;8_T@#jO@LKtR@;-PP@85RT@2(gQ. In English @0*aPs, df@/COR.,QK bu@73iR@q",
  "Q may al@#0aP@&)0yT@.rY@(yS@GLwR@.gy@#TP@.c%e@%oS@87g&c@#NZS@#)iS@B;dU@'-GwQ@,)jP@'#AYR@9:dQ",
  "@4*tQ@+8UP@9)yRse: a) T@,)xU@&5OR@()WP@$>oT@(>OS@89eYb) One@'#5[U@8:bcc@xP@tS@':uUg@>zO@'<aP",
  "@+lT@A3]_@8;pY@$&XP@1qx@#UQ@1r%e@%pTsmi@#KRZ@&wa@wO@8:s$gike@%Db'pdraw@%%oVto@%Dd#RA@&JVQ@%)",
  "mW,@%PT@+-GuS@&IwPto@%Ch]@(,RW,@8-jP@%?|R@$3jQ@$TO@(JqP@*N!VSnot@#NDqT@&gT@7NfQas@%E`X@6qX@-",
  "lW@B)bU@#._&]@BTR@'F.pX@&,#eU@N6lU@$5NlT@*WS@B*tRfrom@(-aTplot@$ASR@'5URmake@#bR`,@%gO@#_Q@*",
  "N(OR. They@1IxU@%LoTth@1,dQ: `!@**?SQ@&ExQ@#wR,@/uO: ![type]: [@CTO@nT...]&@UO&`@&NxR@%[S@$5",
  "COQ@#TV@/KaP@$|R@B>PU@88mVstructu@:vP@88`Tnd@2#PP@IaQ@83]R@.vR@$'GpQ@*PQcycl@3HdT@IcQ@#5:nRt",
  "ype. C@##1rS@'<OQ(eg `@)9ZU`)@&5pP@4MZRhandling: A@$GcS@*3CWQin `@-;rR`@#lZ@hS)@=+VY@%WO@B7c",
  "Qtem. B@,5ZP@98WR@83zP@B4c^key we@'E/jW@$MVS@#sP@'ChR@B6PS@*ZS@8DPU@9jQ@:*sP@&J8UQIf@B3cW@#P",
  "Qi@)A6SRw@+=]P@$NnP@$NYP@7NPSAny@=MyQ@%WS@rOno@*--OW@/5nQn@<CSS@8:aW@8:YRo@;+hW@(;vPor a wat",
  "er@5:[P@%)_T@iOlogo@NA[P@</OW. To omi@'LeQ@#(wQ@+9VQ@)9nQplot@%0>dQ@)Pb@*t]and@B;|[@B8e`@>[P",
  "rnar@,+ci@#!OPT@yQ@93f$f@/6sl@%mQ@/6g$jtran@;)cnT@vS@67x$b@#$nP@$uS@1.YSused@)?fR@(*cV@*NKwT",
  "@94W&k@C(aRallow@*$gQ@&+eV@&/oSplot to@$,OR@;?wQ@(1TYcal@1DZRare unaw@$!CpT@*+=pV@&<aR`@'HrU",
  " is@&/LsTor@-(fT@#=VPand it@(8ZS@'HHZT@&H3dQ@%V_@,2ZPexact new@C=YS@-TP@$y`truth@:<`Pdid NOT",
  "@$jQ, an@<N|U@*,VYaff@+,7OQy@)a^@#qR@BZPceive@(6RW@LBuTh@(:QP@%tQwill keep@5KPT@BAgQ@3.`Q@(#"]

def schemaBlock08 : List String := [
  "X^@#!^Verve@))JVS@#5nRfor@'iX@$=+uX@%M`Rsub-@#$1ZS@$,jQf@NpO@>BgR@*+JwV@?'XQub-@#qU@$=yPly@$",
  "-|Y@93vV@$=HPU@%21iS@'9eS@$5NbT@%$kS@3,^P@<&WP@%15VT@&mT=@)*)qR@%15eW@oWcostQK`. Then if@3Mj",
  "T@(?lQi@(EmS@95ST@$=IlS@#s]quantity@$kR@#mPaxis@+3yQ@,]Oreset@'-TR@##$[R@oWtain@/wO@$?`Vzoo@",
  "&*DaX@%)FsZiform@-/m]@BeYU@wT@#:Ak$h@&*aT@$%uwU@#YU@$%y%d@%tY@&!T&V@((Sa@+Jke@&H+jT@)Ezr@#(.",
  "wR@-8i$d@%kr@#(%dR@-5g$l@+>^Q@+>xd@++XV@B8p'Q@#!9Qb@5BQc@#OO@.LyP@.Lt]@4/_P@tQ@)4rS@+kV@+QOH",
  "TML tag@6N]P@#GvP@$C|R@+-9iT@$(EbR@*5<]T@/$fQ@#%3y]@/!]Sarrow@K/R$e@#EgU@+8qP@%hW@%_T@%mRhe@",
  "0&mb@$=u%Q@<,Se8@(OWend@'s[ head@,D_P@(Q]@'pO@(PR@/H|#q@*Lprn@,FtQ@%/?cR@*Lmo@4(OU@'c_@##Go`",
  "@'fO@'XO@'fT@$)Ga&T.@0D_X@4MOV@-sd,@#MKwX@hO@7vO`@2LRd@72sPa@)rPabout 3x @*J)sY@5NT[@*YQ@+C_",
  "Q@$^S@*Z&S@*J1i_@6'UU@*[[@(Wa@'%VS@>/b%f@4MTy@)+0^U@$9kUow tail@%3)`U@0nT@#KmPa@#%*bS`pixel`",
  ",@7?nV@+1?lU@$UT@#$&gY@,/PR@&.RPi@'4DPR@).UPto@#$H]Q@'48aW@2FkP@$sUnot@$wR@<DWR@'+?|R@5bO@5;",
  "RR@#SO@E&dRs@$rO@#%HiQ@4oR@?9iRxi@)#aR`x`,@'H)u]@AKmQ@#)4xU@$UR@.qXx@.iP@#$5u$]ixe@5BeR@#%)y",
  "v@C3_Q@$#TPwhat@&|Wth@)2!]Q@#!^](ax,ay@54jP@(kR@#%*w0oI@#B%kRf@#&2bU@&$MwW@>mXo work, Q@7hPQ",
  "K@8/uS@;S_QK@tP@FJsV@#]T@$-sQ@,:yP@1mO@7OQ(expl@?9jPnext@8=SQ@##iS@%iU@%SV@$?DkU@#qV,@#)FuTc",
  "a@#)$xQQKax@),GqS@'HFdZ@%NqP@#&SW@6sO. A@(g_@$BWPful@)1ePr@*6FkQ@-%YW@#/5URould contin@B3YP@",
  "&/BjW@,>?[R@#gO@+M^Pzoomed. @M8ZR@$qf@*F.qQ@%?xRtext@*00]R@%8jQ@%]Q@'&nR@CWY@#%6eQ@+CYb@#!u&",
  "P@)+5sU@#!uy@#%7XS@#!u#n@48TQto top (top to@eQ@#!uR@$sS@#!us@#SO@#!u|y@#!ut@$UO@.lXy@.iP@#!u",
  "$j@#%6ot@#!u#z@#%7m0e@#!y#Yy@#!yo@tP@#!yY@#]Q@#!y#g@#rQ@#!yyy@#!yyy@#!y&|@CUO@N&P$]@GApd@)PS",
  "@N&]%l@)Dj[@::zm@2Kb&c@2KWZ@<dV@&4LYU@$:tP@(|R@'vP@(l^@35zQ@N-W'i@/]o@$9OScapture@-5]P@E6U&T",
  "@'gU@=YObox @&zQs mouse mov@+'$TQlick@-:sQ, @1CmP@1B[Pose@-;_Rto pas@.&]S to@-GRW@.I[V@1AhQy",
  " be behi@')#^R@<VU@;<bU`@*aW@35SQ@$B=^Q@+50pS@>+rS@=DRYI@=?_P@#*LkR@-LlP@-AYW@$mT@%:QPout@#r",
  "W@7;iS@(,sU@'JGhQ@%eY@.+hY@.fV@.+mRtos@(A5ic@#8j#n@+2jTonoff@,JgRnou@%AdSM@'E?vQis@-yV@?-yU@",
  "&QO@'.VW@)lS@C5rQ@,zU@,mP@#'mR@,A?uQ@$6yS@&7nP@?=gS@.JfS@$oS@2!SP@&FjP@GGpQ(@'/dX),@GGgP@+)u",
  "S@'##lQ@'RR@+)pP@:>gT@%mO@#*qS@+1EWQgain to@'2nPit dis@#pP, s@>#nR@#^Q@+/WY@=NnUh@'6*mV@#&|U",
  "@%[T@*SO@%[P@.+^Q@//iTel@7*_P@3rS(on@%/7`S@)kU@(?qP)@$9,aQ@%FkP@(zW@+OSne@#+1rQhow/@y_ @$A<g",
  "Qonse@F-tP@&IoR`x@CCVP@+^S@'YUet `x@.&fT/@wO@_P@,!WT@#*eU@*=ZR@$-:`W@H6yTba@:CaP@kP@-)VRthou",
  "gh, `standof@$!hPpreferre@6I_P@%QW@$|U@.(wZ@5iQ@,Mc'[@DkZ@,KkT@,De&X@5B|T@&+mU@*EgQ@:HTS@JSQ",
  ". null@%BXUl@5=hW@8/WRbox@#'HQST@B-qP@&,uQ@:$zQ@04iP@,Fdc@,,hw@&8XU@+$6S%m@)=[#]@19tQ@+K`Qwh",
  "e@D.WT@,B.jV@=eX@'<aQ or blank, n@DCTQ@:QQ@EbW@C.kc@#*6|1|@$CgV@5VO+@$2bP@%1NUY@#*7cUhow@qO@",
  "9Ly&[@09gX@6<TP@E$YS@&JtP@:0bW@%0>fR@-4bSnea@#AhQrrow's tai@$/B[R@$D+|S@%2!RR@%POup@(,|T@#3n",
  "V@$>.S`S@*XS&,K@#(YR@#Nz&[a@$HRS,@$;XT, to@#HVP@&BWS@&MSR awa@.?rQ@$JoW@#9zP@%0WSat@D*yXto@#",
  "8nR@$)GoQ@2;wQa@$%DWR@%85vU of@'NvQ@DGrYshorten@#)yQrrow@%ST`ax` / `ay@'6(iR@&oOc@'*!xRto `x",
  "shift@vOy@YQ@$>rPmove@7AiQ@D0jP@,C2yR@5+dP@-rX@-eR@$.>pR@',[&l@)84cQ@',^rS@'wX@(]W@''P&r@(hf",
  "@''R$[@*fT@''WR@%aO@<o'Z@*vQ@<q'|@-lU@J2a/a@4.q$Wext@*;Nib@#IjU@+)AUQus@A`Osub@$)>zQ@(1wS to",
  " do @4jO@&#kQnewline (<br>), bold (<b></b>), italics (<i></i>), hyperlinks (<a href='...'></",
  "a>). Tags <em>, <sup@UPb> <span>@H4]Q@0G|T@5?g`@%2?X&T@7ByT@%7oT@#:XX@:0]f@'|Y@:.qSv@(Cw$^@#",
  "*(Yy@,.PS@(Cu#]@$7W^@(Awg@#+Iy^V@(jP@#+0a&g@#H_X@$*(k&v@$DOa@%EgP@$C|#Y@#,5SR@=<oP@$Cy`T@GtU",
  "@2#eTwr@CCtP; us@)$hQ@#F3aSa ne@(1t^@)5pT@'0t&f@0hT@#+9gY@*9NV#n@;,_z@*9Ln(^@8']$e@98qV@);Tx",
  "@8WR@8'fh@8'e#s@#+gV@*5qZ@%G:uQ@HlQ1,@#+ImR@'2xV@$8xP@*SQ@jQ@$YR@%3-^Sright-most por@-,_V@Dy",
  "U@$;R]@#YU@4MxV@'4QW@9?j^@(hQ@+,+P[@(PU@,#UR-@+4TU@'#YV@)AnP@%32lU@#FmP@%40yS@#dO@'uO@#eV@2+",
  "SR@|Q@%VU@$FMmQ@'6x^@/.eR@#5&Z[@8.VVcl@?-U&`T@M0dQ@##bYwh@++KTV@&-PWwhos@2pP@'.qS@%LqS@16xV@",
  "Co[@#US@)oX@)dP@#,'c%t@HjY@#,'g1e@$6tP@43[%i@''HZ^@5NmRho@&BrW@)pP@(!QR@(hT(@(=zR) or@1UQ@(>",
  "VT@$;vRmany@'J=eS@(wV@(oP@#,.e&j@=fW@#,'sV@#7T+W@9%Z$e@#7TU@$/_y@#7TU@9%d$_@#7Rhy@#7RZ@)'_P@",
  "#7R]@*QQ@jQ@'lP@%4C`Top@#6|#P@#WS@#6y#e@'xS@#6y%j@9+zV@#6y'o@'8PR is@'4bS@#6yj@#UR@)oX@#6yS@",
  "#,I]%q@HbY@#,Ia1g,K@%LkP@#7P&rup@#6sYdown@#6swY@#6sQ@,,b[@,+tV@,,mo@9,z#W@)0i$r@'?qU@(CbW@+:",
  ",zS@D|X@'.;iSmade opaque@<6]Qit@87nRw@G9yP@G&RR@)2j$v@9#[j@'m]@=+UQ@'/#b]@&6dP@A(fR@&3pS@4?Q",
  "U@#uP@'/#j`@9$||@(2Q&d@96r[@(2RP@0V_@3/dQ@#TPfon@$([Psiz@+'(eR@,[Pfrom@*`X@)wT`.@,Cl_@7`a@8c",
  "d@4BaT@,DRz@);7R3j@G0jY@#C6QU@*XO(s)@LCm*Z@+Tm@LD[*W@+Qm@LDw(r@2o#P@LEf#O@1Nfk@#%zY@L:j4k@HJ",
  "R)t@H:m'r@#IV[@#HST@#Hwm@E,n(HW@(Hkb@E,s#'V@)Nbc@*!au@E-P;u@<dh@=hdG@=IQQ@*=l%Q@,Nwhmap@*=qb",
  "@#6SP@?,zi@*CIgQ@+9Q$gas@(=g$]@$eS@&BZ^C@%TX@%gV@$*p&e@'tT@BCgl@(VS@4,QTountry@+m$S@':CPU@<]",
  "Suntry@#&KORi@)&6Z[@%dU@%tT@+z&a@(TO@$8Gxa@(]p@*LZT@#7KOs@%#Kc$hfit@+H_P@4,u$a@)K5mS@AAWR@*,",
  "$lS@%F*__his@,4FpUview@A)yR@9GQQuto-@,KUS@%BKlQ@AKVT. On@*D>VRmap@*3nP@A+_P@'rS` lea@.-rP@#+",
  "7oQ.l@(11nWer.lat` g@%'NnRuto-filled@$VOma@#&MRRa non-@C&hR@'BFTT@$nv,@$kW@#$3_Q@*DBxd@%^o@%",
  "Y#l@%Ud@jc@#XPl@BMcP.@#$AYQ@&tO@cY@&j`@%IjP@.qT@(?iU@#%AwR@1.vQ@*>2oU@#$>OQsider@*.JSU@'^U@.",
  "pP@43gSf@0nV@9.`Qnti@:NsR@-+]Q@*>/^T(i@?GtT@#$;_R@$er,@+I(Va@#)-mX@6xS&,Kfram@#!j$Zl@&MvQ@$k",
  "O@%^X@%PT@%_R@#!b&e@#!W_@(1US@(Qa@#'(zTak@+a$_@)3gSk@+52VZ@%RS@%`On@D*z$Xland mas@$!yQ@%]Y@%",
  "OR&,Kl@C7vP@%2[j@C8nX@LT$e@<iQ@%q%focean@,v$W@$aO@0aQ@*#kV@$xT&,K@EmT@?AOqP@#RT@)V$eresolu@'",
  "9U$]@+>&kT50@&G^[@%WT@5HOSas@(0/eQ@'AhQ@%NvQhav@-7XRof km/mm e.g. 110@7)r[@(DoQratio of 1:11",
  "@+3xU@,H[W@(TS&,Kriv@,;^$U@=sW@$jO@D/iY@%PT@%_R@H]'T@(Rc@*7bTc@+.Isc@'*f#qfric@#E4TRasi@YReu",
  "rop@&JEqTrth ame@|Usou@c[us@XR@C.VR@#52xXco@#52xT@D6O[@'gO@)KyQ@$!zS@*.S%k@D;m_@$'cW@*-yg@']",
  "U@'oSuntr@/!SR@'n%y@$!i]@'rh@'`R@'qQ@#&Ev^@'m%pa@#1oP@3-oT@+JJbV@DHR^@'_P@$B;jSk@-^&S@&ZO@-P",
  "f@&|P@'[S@<Kc%l@'Za@#6SQ@#$,bR@$*2kR@#6d^@'kP@#'3WToc@,#)lc@'k%i@&ZO@'fq@'YP@'gQ@KWP@'h&Q@&[",
  "P@2ef@'PQ@.%bRubuni@7&f%l@'a_@DPUof @&lR@3DvR@CvS@*.eQstates,@$-fPnc@,#%|R@(oa@(aS&,K@ZQ@$!w",
  "$e@&qS@$IxbS@%dV@%tT@#3d'T@(dr@#3sS@#'6S'R@>-Obthe@$NgP(@*G<dY@$FgP@&I^Y@BJRk@#C!xu@:q%Y@(<W",
  "Wis@D6dR@#Mh_@4)R_@&!T[Ge@'>>ZU@%Nn^@$(vU@FHpz@=<Ug@4+f%j.001<@%%0dQsatellit@'>MrSion@%)FzQn",
  "ly@%%4SU@1<z]@*G>dXsp@)=xP@14OVof@2kPas a pro@2(zY@#UP’s@(.2_Q@C5zX@=8iUparall@$,8d&P@(0ZSF@",
  "CG_Pic@*H0h[@*XZ@'bS (tangent, secant@.5XR@+7mQ@.%ZQsec@)=kSher@$*3R[@)VQ&,K@%1gR@$;QhR@tQ@$",
  "*/i$h@/-gd@Lb%nZoo@6NxPor ou@#2#bSmap@3mO. A@$:sQ@%+AgS@37^_@$*0cQ@)N1gT@C9OQ@?/dR@*H6RS@+JU",
  "Qt@'M&mQ. @$,yX@%&$wRil@1Gg%i@<dxtilt@+1eTper@%*:oR@#[U@(;qYl@$D!_$bair@BAnRait@8/jTalb@,$BT",
  "T@[P @$7|Taugu@,0fSazimuthal@/xQare@wS@jV@0;[R@',oRak@$)LXTertin19@+>>oSbogg@$uRbon@.3aS@'-x",
  "Ple@&RRbr@]Vcollign@,'oS@=tPco@AKvP@#?&iUic@%w]@fS@%sYcrai@(!'eSras@(6^Tcylind@#,lP@#r]@lUst",
  "er@*EIPS@$AqRckert@+>HvR@]P@+>GYR@]P@(RR@]P@+>DeR@]P@+?(OR@]P@#H(pReisenloh@+K7|Squirect@#8'",
  "QXfah@(ySfouca@+=9jS@]Q sinusoid@(zSginzburg@%OR@_R@%QR@_R@%SR@_R@+?&iR@_R@+?%TRgnomon@(RSgr",
  "ingort@+>JyS@`T quincunc@&IATTguyou@*MlRamm@+RSh@$F$yUomolos@D<YThufnag@:+SShyperellip@&IBcV",
  "kavrayskiy@+?,hRlag@'9%aR@^Prrive@^Tskowsk@.BrRlox@3RQ@(+vRer@#=#yQ@(,XQll@$*1nTollwe@)E`Tmt",
  " flat@'C8tQparabol@(jS@mXquar@F,yT@kX@,S[natural ear@%M;lT@cV@0lR@dW@0sRnell @*UWnic@)wO@DD`",
  "Sth@2kY@CuP@&=_P@F-_Pirce@,b^poly@6VO@(JlR@1hT @k[obin@#wT@CSS@.KkSnu @)oZ@(R[@6i_ti@*CFwTtr",
  "ansverse @,RYvan d@MpOin@1dT@eY@)OR@fY@8PR@fY@5XRwagner@]X@5TRwiech@1rSwinkel trip@cY3@#9IS]",
  "@IcX@HZXy@&J$nY@#>]_@#?We@D5bR@'B8||@%'LP&YT@%-$iY@&rO@#NyRgri@93pT@&>|Q a 2D `@'GCfR@(!AeW@",
  "/!wTit@J)XQst row@=NTR@=HvY@$RS@'N:yR`xaxe@#wT@#iO@/!lS@#d`But it'@#.)cQpo@#)0sQto@$,+WQ@9&S",
  "U@#mP@=HjR@*HKZSle@xPr@#,,eT@#+AhRnon-@#D5RT@'fR@0LSZ@-pO@'0Ox@(H8n$g@0mS@#-]$V@7.gU@#'mSup@",
  "&-<rXno@/XU,@-fR,@9/kP@-rR@&-:[Sut we d@,nQ`row@C!sR@1oQ`, w@C!QP@?7qS@(5RS@,3vPconsecut@0RO",
  "@3:zPs,@2zOwo ways:@%sW@/HlPon@>!dSp@2NiPum@#;oPon@>#rSper@IFvP@'mZ@6LiQnew xy pai@*#-VVell,",
  " left-to@DAeQ@'B&eQ@G:wP@J=qPn itera@,8gPows@29hX`row@(!=a^@$:AnQ@#KWP@pP@)/]$[@;7lT@#5ZW@;8",
  "cQ@-lS@JEOV@'^Q@3<jP@0BtRttom?@(8uU@<sR@2>YPways@%PV@(7$wjR@'yR@(6(iU@DW&c@.TO@DT#O@?/tP@5uT",
  "@Bl%oRow@%,fR@lO@$6W&VU@'A$lSreeform grid@(!7dSsome@+JyP@1IjQ@#/ItQ@:TQ@'HCXS@AM|S@+-WS@'MAb",
  "Qentr@?LmVa@#E0mU@&!+yRid@-=xQQKx@42YSx3y2@I2qSQK@+yT@6iPell empt@9/|Qmay reus@APP@+NxQ@;MPX",
  "lum@:.ZQ@>FzQ@rZ@AfON@-j`@+<uP@#D7QU@CEsS@#J+VRcan@#,JxQ@$-#XT@7NVSgri@%.ClW@(6+yUgridcell@)",
  ")|d@/wR@>5QP@$*Fr&O@0SX@%%)OQ@9OP@&?6uS@?#[W@,,uP@0OV@BuSnd@;pO@/qc@#EL]R id@/fS@*#kPx@/aOet",
  "c.@/gWnot p@H>hP@#]R@D(lR@$jO. E@%EsQ@F.iU@#`O@$-+zZ@%)7iV@>hT@#4AST@?gO@&HFoRbut@'wS@rT@K;Y",
  "Q@#%yS@#%jVID@5E^Y@-xO@%<2l%l@9;`jH@C!sU@B;YWgrid ce@E7`Pxpr@D(VP@#35bf@%EUP@1:aWone@#fO@*7S",
  "Z1@GMWQupled-axe@7XP@/uP0.2@H6ZR@8>ZS@mO@*qX@%<5bR@)Ir$]@#)`_pl@+BKrStop@^Y@#LrW@%+QT@2zQ@,A",
  "tRnd@*J6bRgo.@$^V@,DOPt@7NYPy@4JcY@#$OP@%RZ@$F2eUs@+4-fQ@;#cPach@5nS@F9hS.@%rS@FKVQ@&aTare@-",
  "HzR@6)kY@)HfQ@4vO@?b(c@51WT@?bQ@#/GRQ@MtP@?be@#[S@?aQ@L`O@?^#y@$#xQ@?^#TY@?^R@%;CR%i@?^jV@#J",
  ";eS@?[#]@'(4vR@?]#b3@?]n@%;EvS@?]$]@+?_Ulef@;lP@+?bV@`[@?]b@2vQ@?]c@$^Q@?ZY@KCjS@?^Z@%UV@?[R",
  "eft@6-]P@?^X@5kR@?^W@%uR@?`P@&hW@?bcY@?bP@$BO]ri@#3Ka`@F1R[@?<o%k@M;Z'S@'&q#_@*8w_al@5)oR@$0",
  "F[R@G#cQ@57O%X@%vd@55V'u@&JwR@0vV@+/[Tby@D/_U@$.$ZZ&,K@LIZT@(y'X@(eOfor@#/0hQ@D|Q@9WS(@F>gQ@",
  "I;sP@'+^Z@5;fUf@$I2nT@MBX$g@$<u#n@M=m*x@Nx[@#!pd@FA[Q@4!W%[@D2SQ@#<FT]@'>l_@E>RW@6+ZY@=Bk%^@",
  "#-Lj^@#<Fz'x@(cd@($vSe@+,h&e@(bZ @#/=ie@0E|P0 to@1(cP@*CkQry@#E*TX@AKdT@'KEnR@(vT@-IO]@1!WT@",
  "3+wV@+.jW@#bX@1)f%Va@$/,qQ@)`Pmea@#2&RY@&kT@.>rR@#(f'^@,,lR@$/#cQ@#,JbUem@C:QQgroup@7Nge@%Ig",
  "#rggleite@$BRR@`P@&%JSR@,;r_@,/uSo@G(yS@'&8nQtem@JDSR@$PY@[P@$#hQ@(1Z[@K/iU@#gT@#A)P[@%gZ@#w"]

def schemaBlock09 : List String := [
  "eal@#lP@+MJbX@#0=nU@%DhR@$ef@1sU@0lO@8#YS@#8d(O@?bR@#$sX@dP@$0GuQith its@%L=vRcre@?vO@;MSP10",
  "%@#B>uQtem@3Y$d@3UW@%GOP@IN[j@3_^@3X_@3Tm@2vm@%ZS@(4HUT@#SR@#aO@2gOol@$TQl@#wQ@#oZ@>2OR@H+`Q",
  "@NH^S@$xT@CMsY@3ZUI@+VS@+dQdouble@+j&U@&`P-@+q&P@&[V@+xi@+kV@,QQ@#F+d$_tr@((+kU@$E+]T@,.h`@K",
  "sX@(94xQs@1H[R@$JEoT@6;wX@$ZT@D%pUor remain@$nX@<0jY@*xOymbo@#MA`Q@EmdI@)PT@)_Q@#5b&V3@#;vn@",
  "0SV@*xR(@3LeR@J3oW@#5M^St@?FwP@)QY@#4VS@%N=f%e@#Au^@3IgY@/,cs@$%kP@E!d$nc@#*uP@%?/y&c@.0VT@#",
  "N)qTp@'GKPS@?>yU@#3RV@0$OY@([W@(mR@'2i#r@,?>Pr@#1DxS,@&'3ZRed@C7Pi@(FiP@L4q_@$%UP@</UW@AmW@3",
  "5gW@32cS@+'0ZV@w^ top-to-@&+tQ@#7]V@$gQ@H>eR@+'0bY@&zV@$Rc@2;lR@(<CbR@#uS@'[U@,DuQ@(bR@#ph@#",
  "1NUQ(@#93TQ@#/E^Q@#;TU@0;VZi@$RU+@&P#^@%nS@0W]@':cS@*0^'R@*^P@*0`_ra@+E4OQpi@',!dR@#,]T@*0^#",
  "[@<>a%z@MbR@.;l^ir@=!oV@K;OP@<=W`@0!c&n(@9H^d@$;O[@--WX1.02@28UQ@*dS@yP@E9kQ@#PW0@2:gR@&!RT@",
  "#OQ@<(X&R@&^P@0!v$e@+PR@8'vP@&`S@$[P@#?nR@$3#xT@?7fS@;EyS@#$)Tf2/3,@#mclef@#l[@5/Wa1/3@%6qQ@",
  "#lX@6Xa@*;gR@B-rR@0%lc@/Lg&n@6Z#X@6Wb@'G8UXQK-0.@zR@6W]@K1bUw/o@EC|Q@GBkQ@7u^1@#no@$#,jT@JBT",
  "V@$QW@;)|&R@8wS@0!j$_@8tr@$7BSS@$GEtU@A;cU@7Yd@8t`@#pStop@#mZ@:ig@8|v@+$%jR@8|`@0%eS@%LV[@%K",
  "_Q@%LRj@/Kv(b@2VS@/KsV@$L[#V2@$L[R@$$/p$g@$2?^Y@^Q@/KYk@'sY@/KV_@%5kX@(cQ@%6cP@/KZSith@05rd@",
  "#TY@1#RR@#UbvQK@N)yR@&fU@3&vR@&G*l[expand@%oR@;(TRboth@'KpSsid@,$fZ@/KP$l@$1y^@/Gbb@7qV@8jd@",
  "K$]Q@'6_zccesstok@2KPb@'p#k@'JFzQ@#3(uRo@$87QT@%3;oX@wQmap@9#X[@#jc@%5+[X@+<iQ@'J'OU@G2TSnde",
  "r `@#fPA@#eOToke@#1:bX@$PP@gO@#4!fQly@9)nS@&'YQstyle` (e.g@1yP@FPQ: basic, streets, outdoors",
  ", light, dark,@+/qT@YU-@#WQ )@9DXR@#!4YSlayer@#G$dWhe @-]P@'I7WR@':ZW@,nU&,Kbea@,^O@9BP%p@&O",
  "Q@4EwXmap @(9'SUcounter-clockwis@,$tQNorth@'I7dS@#lQ@$KPXB@(UQ&,K@/9T_@J|Y@,.>ZR@0(Y$f@0+ss@",
  "#/2|$g@*5wt@+LHx$g@,9fP@G)lw@5VPL@#ZP@46Z%d@%oTpitc@+(7t%r@%zO@8Y]@##LOU@)KvR@$-`P@(6uP@L,Qa",
  "@#5)YQ@#jT)@8zS@$^O@8xXP@(pO&,K@$K?se@I$s%w@LAhTap@,KiQ@H&mT@$6!xS@ICrW@#JMRR@$ESP@#VQ@#$GQT",
  "@#2,_Q@#2/[R@#6&gQ@)MsR@#mU@$TT@#vS@#p^@(85]W.@pP@GGyP@-!jS@#!vR@(=HPS@4BUP@?FnUas a@KURSty@",
  "#$KXT@KD_T@$7>qR@$N'|T@LnOdefin@#68iQ@(_Oload@3$PP@$6)PSpublic or private Til@MnO Service (T",
  "MS or XYZ) or Web@oXWMS@G(QPm@&SSb@*'TR@HFfT@+F>^T@#$?iQ@I+dR@&fOuse WMS@#J,_T@).WP@#'UQ@H,d",
  "P@#)yU@CGYP@$]S@;7xT@#$wR@$YPr@*M0iR@fWURL,@#6bPof@$fQ@$_S@yR@#,bW@#*wT@m_@#-S]`@#2QU@1.sV@:",
  "%RT@#-Y^@#.^Q@#.VQ.@-^_@$I0pS@&DQPrm@$%/gX@#*oUGL JS @(AByX@)+^T@M?cUdocs@1[Rcom/@YP-gl-js/@",
  "(vO-spec T@,WV@MA_Qjs@&$MyR@%jU: carto-dark@55uP,@aQpositron, open@#/lQ-map, stamen-terrain@",
  "_Toner@]Swat@'FkQ@7ROte-bg@%cX@-PV@%WQ@#3^#c@/OZ@*v[:@#9[Q:/@)ZQ@)mQ-<name>-<@%!0cQ@#C2bY@$L",
  "/qQ@-Gl'r:@#:-vS, `zoom`, `@#4_Q`, `@JkO@#3,lo@%8kd@*,:W%h@#%bW@-)dU@#%aV@/pQzoom@##pXZoom@$",
  "!c^@#NjQ@$!^j@#,SQ@(6Vz@(>0b$a@(>,bb@(>0Ss@C:PX@($dQ@(>.f#oir@$:GeR@#?md@*-)WQ@;4h$j@(;j$Rpr",
  "imary@)lQ@(?tQI@$IBOV@*-/|T@%#IpQ@>!X`irc@#9*sS@*-2vf@pO)@$WZli@7DzP@$Ud@'K7fj@'K7^U@$QZ@%$$",
  "^W@$Q_@)&KOU@'K9id@$Qa@&#bP@$Shico@08xR@$S_icon@$SR@;0bZ@-mP@%6nS@74V&f@&7JOX@;B|Us [@#%4tS,",
  "@(<+RS] pai@$6>rQ@)oO@#KGgQrner@4rSin @$.oTorder:@$6IrS@5KrP@(-*OQ@$5:aV@]Slef@+=#]R@48tX@:0",
  "aP@$&BoQ@#N&SR@-nO@,=UY@+kT@'K(aQ@;VhFill@$,s$g@#<<aq9@%e$f@*-<^&|@9YY@'bQ)@*-<uw@#zOzoo@%6C",
  "UQ@KqX@85z^@*-<vUmin@)y&g@M7dQ@)ye@'bP@)y]@*-!nX@vQ@)js@)_Q@D>b2Q@#6dQ@#/md@#QR@#/oe@qR@#/qf",
  "@rQ@#/sd@$[flin@$Yilin@$We@#/yR@$Wffill@$Whfill@$Wd@#0RT@$Yficon/@FMsP@$_ftext@$_T@DHRb@#LDk",
  "e@;Mz&Qour@#%IRR@%IWS@CRP@(kX@xP)@#K7_R@#-]U@)KbW@2AvU@$!2YS@N;uR URL@1GXP@*?4xSr@[V@#(7xQ@$",
  "Wi@D#VP@'-[S@.JSQ@$ec@$H4zYti@$5pQ@$]k@#2iQ@&dgn@#M=T^@#LKRT@#YP@$CmR@(=i#p@A4i_@$cT@,aT@%QP",
  "@%o^@%eV@%zS@#N,s#r@%tU@&&LuX@/vO@#%JyRrom a@(,#^R@+hO@1RQ@0k_-@[O). R@&(YR@#<eP@.XS@#_Qtyp@",
  "$MpQ@#%=xS@%(|X@&6gY@'vU@(XS@/4X$]@36^T|@&kV|@2tU@6DXP@#BoQ@'L<WY@'fU@7zX,@L(QQ@&9ZQ@%7NUQ@*",
  "rT@#$Ft[@'|P@&tO@(BHTb@%Gol@(BEuR@(Jc$e@D8j/]@9W$[@#%(^W@#%)]U@#ML[U@#)tR@9mX@'BsY@BOPype@9P",
  "X@+:|R@8yT@>IiS@JzR@)iR@%KZS@*&FRQ@LcU@##w_@%3xP@=L[R@>$iU@%%BoQ:@#4sW@#2pT@&zS@#&6[Q@'OQ.@(",
  "'ETR@D[Q@(SS@vP@#VR@72^Q@%10vU@,wOPoin@*A8WS@*A7PU@*&LoS@&l_@BeR@&k#r@$mf@,WSor `@DxS`@3MnU@",
  "sU@ACeS@%SQ@/5o^@D3`&Y@#2uU@:DnW@1,Pp@%2hW@%3bp@IgQ@%3hyic@#.t$U@*)RQico@#2^Q@#*aY@%?YQicon-",
  "@oO). Full@>3gQ@&$ORwww@&#|Xki-icons/@*#lWc@#0SP@iO@EK|%g@(ndsiz@(mgsize@'NCVy@7tT@(sY@EJfR@",
  "8,_S@B)g$Yoi@/7gS@FgU@%1wP@*->ha@(gQ@':dQtext@80dU@(s`@#TP-@uS@IEXQ@_S@$#rQ@%VQ@$<bRbel@FAyU",
  "@#!DgU@BwPy@,3RP@5JgP@#r_@AjR@#q_@63ZT@$*QP@-6XQ@$PR@#rc@(YS@#ya@$$:aR@1<eW@#xS@'!rV@-OS@($s",
  "$Z@(D/XRex@+gbtext-@*((Z^@'%7`'e@9WO@A;iS (color=@$1sc@&=fQsize@sX@)wV@:Z#[@$9,^)W@(=|W@$<sS",
  "@'H.a^@3^Y@9>VT@#%Uh@#$[Q@#%[d@##<yW@#%Uy@#B-Zq@))JT$h@+%FZ$]mmedi@+,;lTgradu@$?)dV@'+_P@:,e",
  "P@0-ZP@##)uTis@#MwR@$:=QQ@#pR`,@|f@MDlQ@-.wP@I,aPup@#dP@$uQ@#banot@#fe. By @7-^Qto@B'yP@#(!T",
  "Q@JCYS@$#wPiti@##,^X@$:KeV@I.xQdecl@(4aPextra@(!JPR@'.EWU@#(#iS@%:bVo@./f`@1]W@2Vh@##KYS@2?j",
  "vraw@##7f$borth@)AhR@',-Vk@##3fR@##8Ro@#')sT,@#'*dXor@#'*UZ@##8tZ@##8cRb@.2bV@##8fc@#(MYR@%g",
  "U@$+lV@#zO@4IUPin dra@?L`Qn@#:*mR@7:oW@(UT@%YXw@A<YR@,.'XQ@)LtT@',9TW@)]Y@##;r]extend.@)uX@v",
  "Q@'QS@tR@2DnV@.VW@)+?u$_@B;uQ@(!0SQ@7yOhapes@-;HVV@$;3u_@'KuR@%tS@+0RQlpha@&*|Xhalf,@#'4bR@#",
  "&)tT@-;DgU@9IvPs mov@;HuS@gOunderneath@J>fV@;pQ@qO@)5yS@#fO@I,xQ@5MVY@'CAxUfillru@A7w#o@&-=m",
  "dvenod@##LgRnon@+0DgQ@)>q_path's@*dUF@#NInWp@*rPvisi@'MaUeveloper.mozilla.org/en-US/docs/Web",
  "/SVG/@#%,WS/fill-rul@#-+bWF@(]R@(GRR@/Gw$Y@$$8Pu@1RT@$$8Tm@(FpZ@&Dnt1@#MAa$g@&)P&s@+uT@HFPa@",
  "Nc`@MiO@N_dP@,K2[#Q@2,hQ@N#nr@$XOA@#UU@-|$e@7Cu$q@0NxR@.1ka@)5ht@7+d$ggrid@#J!u$^circ@2JsU@:",
  "C|S@,Kmb@,K9wV@+/?qVnd@,F6VU@>4`R@>bTa@&;jR@$bQ@$;EuR@**2]R@$nS(@*EMWQ)@$9DhT@$#dc@NiO@$kVha",
  "@<IbS@<I_V@*1?XW@&_Paxis.@<?tQis sn@$L>ZW@)4|W@DMtR@IBVP@$&YQ@+gS@&AhU@&yQ(@#<(hR@(qV@C9nS@,",
  "1^S@1;yRat@6)eQ@#+9x]@$-!oSho@)5a%g@BRs@0,wZ@(A7pQto cut@3DWP@=<mQ@,G7QX@(aUHo@B0bQ@,`S@?csR",
  "@#TT@3Mu$f@(!?o^@#+EX%z@5|R@%<!gR@C,RQ@('DmV@(=cPwo@5QP@#+EuX. S@&6TPare@#)(uQ@8FrSpan@#=>fR",
  "@7N_Rer@(&]T@%#&|T@$WO@)J_P@#;!n[righ@01[P@#DcP@/bl@%ZP@)(s'n@:ESP@#<!xUif@5?_P@(G'jU@&-gR@#",
  "*F|Y@))Q#V@#+j[@#*tP@#+gi@#)]V@D2`#Pt@+6=a8P@%-lPtal@#_[@eP@#[[min@z[m@IdO@dZax@x]ax@x]sum@x",
  "[su@*+nP@#aXea@$s^ea@$t_edi@#O`@fO@#QW@(4>xw@+6DZ/X@(wd@6l]@,^O@6m^@,Zp@,Ub@%*<xRS@1=XP@,!UR",
  "@1-YQ@*MyR@#pZmin, max, sum,@,8#`Q@,2NjR@/>QR@$UV@AZ^@+6IeT@%!o$R@*KPR@0HsR@D(dP@+6Ep&b@%6e$",
  "a@#=cZ@#)%yT@_S@#,$bY@#>VS@#=x[@BJ]S@#AqP@6$|Y@%/WU@C;mNz@+6!^%S@+7!u._@.zf@00US@#;+o$y@?Mh-",
  "XH@#;A_X@&AQ$^@&>aV@7(nS@&52pV@)-_`@)2#RX@3EqR@0.qZ@$RX@>8sU@(KuX@&57[Q@$(VQ@;/yT@3-iQ@#nO@%",
  "_X@#nd@vP@#nc@%-!oQ@*J!_S@9mVU@#C8fU@.8VQg@&FmPwith@#'8zR-lik@#(%PT@$KkP@&58|S@)*_U@1-bR@#(&",
  "xR@N1pR@(=]V@&5=PV@#GC[a@&HWW@CAz$t@+71W-t@D4U-l@'';V%k@9]l@&JPW@&qP@(Lff@'/yU@)1=vW@&JwU@),",
  "lV@''7YS@8>[a@(t%O@BBeZat@L'iQ@0-[W@&:dR@J&eT@'$RU@%:rW@&8eV@LlR@(L>uU@%'BkU@$Lp[get a `@(xR",
  "@%C/OQ0QK@((,radue East (like@3+VPmathe@3zOian@#!0kR). In turn@%kR@%bf@%Z[@%YR@%XP9@%Yh@/$iQ",
  "lik@'(#dQcompass),@6=qX@1I]T@+6An>a@DFy5o@,LLz$x@$3yX@$9[Q@,'3kR@bTted @,LLzu@#8vc@(6lR@D<wY",
  "@,LMSU@D<sC^@(XO@#42bU@#MKy$#U@.<]$]@+78R`@#1uT@MLv[@&-hUtyp@#C*aS@#&YS@(5OP@$ImR@$D&cYt@,*1",
  "bR@**zS@#lO@#3$nQ@#6OTIf@%OU@K;OQ@',,sR@$CbU@#)vT@#>VR@1#PXound@&-bQ@',n[@.4zR@*Hc'o@&6RT@*G",
  "eY@)RO<N>@=Gi&l@#N.k&R@*Nmb@+!ki@+8eU@,,a#O@$Nr%x@&IvW@$H6QW@,!aX@&&wT@C)OU@&JeU@|V@.0oP@/:n",
  "Qheta=0@'CkR@A$aY@eO@#%/VS@,9KrR@&Igl@(;)aZ@%5oP@6^P.@+?sP`@'RP@+#OX@%$SR@+A#l3a@%>Ef*Wfor@5",
  "rSand@)LZT@8[Q@N&`P@#!.dTThis@#.'zT@#.iR@$SS@#4:c[@#,ApT@:PQ@/M]P'@)$$edor via@'#bP@N2_P@#JH",
  "lS@$[Q@%3$_W@#4;bW@+BX##x@+<P$;t@+A4y4c@+A4lf@E:rQ@BLlP@*DYT@+A3Q%S@;)|^@+A8Z#] (sam@<)PU@#&",
  "JxQ@A']Tax@,*BsZ@+A5s>n@+DS5m@:>o$]@/N_[@-$T]@$<Mtl@(*p[@6[S@A#OP@1[U@Iw^@::kR@+C]$Dy@?=Zr@+",
  "*aY@+B0`'f@.#*a#U@+B0j%_@+Fn'sange`,@+)`V,@,;&eQ@K9`R@L9yQ@%15eQ@#;;sh@+HZ+j@+G]U@+HYs@+BBx)",
  "n@<DiP@*>-aV@M1qu@$(3f$f@#NiP@M'v&X@2h`@3jdS@#9!_S@,,kw@#>IU#S@$bO@#>IZ+w@%OO@$7k$hcub@#<HxS",
  "at@H6|Rman@8!qU@-$OP@xO@$$qQscene's@ECST@$*'jUcub@':e`axes'@HKOS@%77jY@#wein@I2qV@*CeS@#q^@&",
  "SR@#s#S@'<WPof Q@'L%|V@'&#hdi@x]@'&Dt^@$>RT@%Ze@#B,SVsul@$=<lVQK@&*uWon@#3nR@E*RRhan four@,B",
  "FvU@#%NzVtw@$6BQQ@>!mS@F:aS@#3*iR@$kW@-wQ@#$*RR@,,kX@1^T@'L,jg@#?:yZ@.%$qV@Mt$j@*gTis @&WU@K",
  "vP@7&j$P@MGmcamer@$6.zi@DxUC@#PP@>=R%b@$+Lt$h@#=;z$a@#=8ye@#=<j`@#=9b#Q@;*YUce@))[Y@#=6tV@#<",
  "(s$b@#<(c]@#<'oy@&vg@#;ExW@$#S'j@9kP@#;4vW@=Gb#X@#6Lvs@;_O@#6L|%g@%pO@#6MS$i,Kz@%pwZ@#7#u$y@",
  "#>aP@#?Si@#7$RN^@C3OY@#6!d|@#:-xV@'xXx@'pO@',9i%v@'p#gy@G4_$r@ATX@F:T%l@#5-q=U@#4Ft0c@$.RZ@#",
  "4Fy$IV@G*mV@G6m%q@#4<w.X@#3Na.P@'mU@#3E_1x@#3(q(h@.,7z%h@>V#X@*G._T@E5bX@(6wc@#3.cp@&+Qf@KKR",
  "%[@#3.h3a@7ef@8mi@)GiQ@8^y@G7nt@+IMfQ@+Z$i@$+5tT@*F%bZ'@&`P'@)5qR@CFgQThis@ZR@-+sU@+>zQns@/L",
  "bQ@#|R@J/vP@(!zT@B*vV@)>ZT@+JGSY@$*iSsuch@#zV@''hPey@ENsj@)r%deye@)oY@&)6cR@)p`vie@#<.VQ@)aU",
  "orig@(KK[Z@%-4uQ@#'0kq@##9XT@#>Ka$i@,V&Uup@,Uwup@=&mU@+sW@%$Z`pa@#JHqR@?jRis QK!x: 0, y@TOz:",
  " 1&@:'qS@N(pR@%EwQz@##*lQ@'FoPup@?[e@>SQ@>yi@)KVP@>;Z#P@50|3Z@#8`T@#:w$n@,$eSwa@#33VYB@%jY@5",
  "5P$4k@5.P6f@5!P2vmirr@'>T$X@-+2xStick@#!5xV|@3+oWall@pR@D0Ub@0IaT or/@3%oR@%4#lQ@&nO@1CfT@N3",
  "^S@%!&XV@'9[_@3H|V@$WU@#wV@yR@%iP@z]@%S`@*=lZ@gP@#?EnQ@#!6rQ@'<ZR@39qQ@$ua @&N'nQshar@#%2TR@",
  "#&FwT@#dR@%hS@%dl@#si@.pW@.aO@,'BkEcA@$IIdQ@#K;iR@'4,sQ@#H/^[@5.d(Xaxes@4En%p@#,%la@'!_U@2Ip",
  "Q@+Db[@'WT@'jQ@%0pT@'j&Z@&DlP@#F<rQ@$A$ihS@'kX@5:T7tspi@#,5y&T@&[P@3-fTfrom@-CyW@#9#cR@>gU@$",
  "!5kW@$5/PQ@(gY@(ZQ@5Ao6hpi@#.5_$g@9eP@%gX@%TT@%cRsid@Aj&Z@#EcP@')OW@#*5WU@Azj@#-5ZY@BXg@(vT@",
  ")WR@%H?i'U@/]c@'rT@5MQ#+S@5>_#.O@+-|T@5>Y,Z@55X)n,Kzero@&#f&c@,+/Qa0@''5qV@#<hX@&*|Vzer@&MPP",
  "@#jT@%7>xQ@(EmiZ@)[R@)hU@#)KW$X@#2Jz[@&bS@%l`@$9|S@%qR@Gc%i@(5vm@'fi@GWQ@,&da@,%kP@,&cn@5Fu2",
  "T@2cZ@3`i@40ZP@,7t+-qY@,7tFf@,%kP@,&cn@,7t2Y@2cU@3`i@>C_P@,7t+-qZ@,7tFf@,%kP@,&cn@,7t2Y@2cU@"]

def schemaBlock10 : List String := [
  "3`e@$51lX@#4=z#o@%&KV$g@GEm1|@/!1^j,K@%30wR@2t#sFor@NCUT@$9IaQ-@,)%cSSVG path@%4pV`@#3JUQpat",
  "h` @->'c]s. A@$(JwQseg@$L3xQre: M, L@(TOZ@#.8zXa@#HjQ@#7'n1n@$:.`U@4wQ@,,f^@#52nTtyp@%5MWR@$",
  "IgV@#5(URa @#E8cQ@(?HXQrawn lin@-hO(`x0`,`y0`), (`x1@[[1`)@5nO@yR1`@&N1wS@%N-OQdraw@,9)wT@8h",
  "S@$5(yQ@8[O@$%V`@->:d&h@/#+XT@'FbU@%:#ji@-BL|Y@'r&dend@'md1@'mO@$+3q%p@&vV@%59[1h@BY'O@%:5ri",
  "@BY&w@'mc@BYO@$*>Q%q@BYv@%58c1T@$8u[@$9me@$7<nT@%A5_wi@$?8j^@%2[%o@)gO@#66oXactiv@$A*qTdi@$0",
  "HuR@$)-``the olde@yPabl@#sQ@$='`Q@+G9pUvia@$N&ZR.@|R@#KRP@dUs.@#aO@%1JuR@$;Ch]a@%:sQ@/$:p$ns",
  "hape@#68yW@*.8tWto@&<>qR@#6)a^@#6>R%j@#<BOR@&<E]Qf@$<7uQx path@&6LpQit@%1KxR@#6>v(Y@#6>r$S@#",
  ";7z$g@%&n2O@/%)ve@%&j$x@.1TTix@&<IURs @)8'iQd b@$67[Q@%#LXT`x@+>;OS/`y@+>;[Tbe@/KOQ@(&(hRand",
  "@&)+gQun@/xP@%E|P@$3&Y^@H9`T@GJUX@$;BhU@$3*hTsiz@-57_R@HKVPare a few re@/MvP@2YO/ quirk@$;Ij",
  "R@$3(^Rinstru@$>*VRnot@%TS. S@#!3SQ@%+td, H, V, \\, C, T, S@.9qPZ arcs (A)@'BjS@#hR@*06nR@#6",
  "6iQrx and ry@#=KWQ@$rR@$B0wQ@%#AvQw@#+RR@-=gS@I=rQing@#!7|Vmmand@#)%XQw@$B/rR@*0DWSec@6_On h",
  "@H4dP@$$<iQ@/AbPnd log@/$FP[even as is, \\@uOC Bezier@N|Q@#>!dS@%;6kQ@H%fQ@+;oQ@%#HdSb@pWog@",
  "(oPvice versa. no chained@#H8YQb@$^OQK@&wS -@-60VW@+QQ@#:?iT@(;WPne. On@)4XTaxes,@#9NkV@(JbQ",
  "@'?E`R@#%2cR@)4rV@#'ZP@/!pT@+xR@)6qT@lU@#>&eU@%-XP@$B9aSno way@*kPscrib@#6C`T@H1fUs O@%:UQax",
  "es:@$dS@G'PQnd T @%:(yS@%'+eQ@FDnX@%<[P@,'uRwe can't us@#8*gSto@--.gT@(LXProm@.-_Ppart@-C1pR",
  "fo@0SO@*1<dR@%&<yU@(7oSpurpose: 2015-02-21_13:45:56.789@%=h2V@#:DZW@%=u]@'B^R@%>Sbhap@#;3yR@",
  "%>O[@#9IqR@'1aZ@0`O@%=tU to@%=iW@##-k`xes' sizi@*0JjQ@#.)qR@#:=xSa@#<(sR@$_Y@$`O+`x1`)/2, (`",
  "y0`+@$`O/2)@$dR@+IIjQ|@#OW - `x0`|, |@#XW -@&UO|@%uy@%EU#i@[O@%ERR@[T0@)Uz@%FYx@$Or@'J]&W@&8",
  "0Sk@%CFUR@%97ok@%,_&h@$/|Q@%Lf`See@#8fR@IM^P@#6iT@18^Y@%Md&z@(lQ@%M`Z@(g#T@%N^P@I?`f@(l%t@(8",
  "DTX@+I5]_@(^V@$4IZZ@(8LhQ@HcS@I7aRoi@(/yT@%DdQ@)I,WS@?bO `x1@*eP@%>*UX@K!cQ@>UP@#?QW to. E.g",
  ".@$3=aRto@-8DTRa@#I`Qsiz@$AyR@#-SP@%&5pR@#IfT. N@$,'tY@'PU@10rS@'TW@-gV@%9EX%|@3aR@$/>l1i@+B",
  "5[$m@$1sR@5T^s's@#,ZV@$$.UW@5aZ@+B$pW@>vu@#IrS@$7zV@AuXor@#H%S^@%<*iS@$8<jT@K#UQ@6lZ@3VW@$5>",
  "PU@$8[T@15jX@-sUin term@1YO@).iP@)&oQ@%XSbut@E[|@$;cg@$?JgT@10sQ@%>zP@&L?dRa fixe@(N=_R@)+hP",
  "mai@$,9pT@;sV@$UT@&Y`@JHQY@+B;|U@&;p&i@#1`Z@&5zV@#*tZ@$FzU@#*te@&<j&o@#1`U@(g#a@&=dP@#1`'Y@(",
  "^U@#1`#R@&3fQ@#1`Ty@;ROy@;RQ@%?,dX@#1`$e@'PU@#1`l@%:3f&O@3aR@$/9R1m@#1d%v@%?KjU@#1d_@>zu@#1d",
  "g@+bQ@#1dl@$A&WR@KCSQ@#1et@%HdS@#1eX@-tU@#1er@Eay@#1e_@%UR@#1er@'eQ@#1f#jY@#1fT@'+x]@'+SP@'+",
  "te@$<6rU@#CIkw@%6Bjd@+)S%n@&MT[@-8LtQ(b@)L8yR@.8eX0@$#AuZ@'vP@4!iX@(]P@$D?eS@K:x$rs@,rO grip",
  "@0TQ@*IiT@&T[@%wR@#$!d$u@&UP@#$!`%l@%v_@#H:f'w@(cd@##HZTurrent@%&8r^@$=$qg@*4(mQ@#XP@',W$e@#",
  "GNk'^@:zXstep@$H*ZW@$,GZ&q@'aQ@$,GW#[@#gP@$,AiT@$,GV'Q@)QQ@'dT@$,Ev$Yor@-4j&g@&=<VT@#2kQ@,M8",
  "PS@6]O@32nU@1DfX@'yT@'HY-Q@#%&n[@L&fZad@%.FW$j@?vU@AzU@#%4fT@#KnP@%GD[V@%71^ySte@.#p%h@%71PT",
  "@)L6j/`@#Bl%a@/!s[@#!W&w@#!Qf@.5UY@-5T'f@$==U|@LNX$g@'2Q&a@M|S@%>Hr&[@#H#l#v@=V^@#!8z%r@#JZS",
  "@#GNl$b@#G=yQ@$B8hQ@'&nc@#GIv'e@/e^@#!)v%r@/eS@#!)t$_@/bf@#G?]e@%-_R@%.Sk@$>zW@-5S(X@$=bX@,I",
  "%RX@N5hT@,JLP%tT@#I<sW@$11mQ@#$AZU@%M]V@'d_@%MjR@8T^@):=ST@/4]$PWhen@%gR@$8TP@#J3eS@$2>OT@$:",
  "`P@$?hQ@4*hP@26lS@(M7uZ@%14a$Z@&W#O@%15_Q@&Wd@%14|U@)M0T%z@-=(YS-@$B#_S@#5(TQ@#0GUS@/y^@*FHw",
  "W@$*(S%V@5iO@#$-]Z@&tPreadou@)MdT@'L`T@%%h]@#%ta@Eac@DlW@Eme@$A4bS@$(Dk%o@#?!q#f@-Js$gimagin",
  "ar@#)1ltmithI@#WW@&S$ere@#>Aet@%|OR@#RR@%v$c@3l]@2kO@3^i@)yX@#!2[z@7$`)R@#27P#*_@#:JdDT@39Z9",
  "i@33m'f@3&T0U@2Jw'h@#,LUW@%2rR.@3;nTpl@(CzQ@#C-`R@7(xR@*)yPzer@*HPX@%8+Q/w@%=fd@%>fi@%CdS@%>",
  "a$'s@&#DY%ere@#4E_#d@76XAy@%Ky-Y@%C/rb@%Ku$S@$oP(@$nT@%Kqc@.'LYX@#Lle@%Km+Y@%JS0a@%ISS@%I|d@",
  "$H0_R@-Nlz@)?jr@$TQ@-;LU$l@%ry@-;>R$k@*&e%cc@)^yC@)^$j@#2#gu@%3*d$i@#M+u%f@E_i@$*ArU@%28[Qip",
  "le@9BmSsum to@&0iPt@<=oU@<4`Sea@#=GlR@*FfWmK@#3Mg's@$:9QT@6:eP@#G=u$h@FPR@Frk@-88Y#R@#;G[$1n",
  "@$DS&Z@$!MsR@#JdP@-:gR@$*XX@wO@$DPQ@,&(|_ sum@01VU@#vW@1GzS@$(CdQwo@(-5WR@*-'zQ view@#?Nu[@)",
  ")8zRinima@5cR@)=o[Min@A#c)o@?Cs&Y@5IQP@?Cs'T@#F*S#&W@#;/d$Et@(IjV@%M#R)s@))Xl@#;'X#`t@,aP@#;",
  "'Zs@))Xc@-75qd@.oc@>'p1|@2e]@3dk@-7._#R@):s(H^@-6*j$p@):s*x@-6+vd@.oc@):s2U@-6$]i@1>U^@):s(I",
  "`C@):s-p@)(dP@))^p@):s2[@2eU@3de@3W(^@.YR@3P$Z@E(i%[@EGe[@'qS@$AA^Q@jR@%/;uR@KCZU@KIjS@$0-fX",
  "@H-|S/@FNvT@%.NRTe@%9HyW@GCRQf@#D&dR@$eRt@%=#UQ@#,qP@H3QV@%&!wV@$:KuU@,:C^Qam@'3ApQ@++0tU@%Z",
  "_@$&fX@'$jW. P@%OQis muted@$2=WS@'M5VS@CCzR@&vS@CC[T/@BN^T@>d$^@(!YR@,OP@>^%t@D6t&O@K3o_@D6s",
  "U@%ByZ@&40hR@GHXd@.1=uQ0QK@'36[R@$<$gS@I*ZS@C,nV@D7q%q@/kR@#J(v`@(oZit@#E(ZX@$AHV[@CnV@$3NzR",
  "at x,@$wU@|`@$;MUR@K0xP@&XU@#P_@,B(]Ti@#WP@(;HwUdivide@%1,lR@FPPre@#H<sQalcul@%0'hS@=`T@C<rQ",
  "@(</bX@$?0bV@%'OS`x@%J5QY@IA`$g@%3-zS@JCqS@H1_P@':1W[@%4.]Q`x@GHTQs to.@#dY@#J2gQ@$I*nT`widt",
  "h@+?.ySplot.@$[U@H$vX@%6F|[@H.cTon@&'hY@&4)l%n@;Rs@DCaU@;R[@%0=gQ@;Rp@%0>uQ@;TU@H3xP@2bS@.B5",
  "QQt@$F<QQl@$5GaU@#7`Q@##>`R@DAVS@$5F^Xtop@%7#TR@DF]&Q@9QR@#F-U^@<|_@I&vV@$bR@:xcap@K'ySat y,",
  "@$C(j_@#VY@*uS@#VQ@=_Q@&hS@#Ybmid@#XV@=`_@.wP@=`h@#.cY@=`p@'4D]Y@HM`$h@=`#Oy@=`x@H0cP@=ar@%7",
  "<X]@=bf@M:cb@#Gij@%3<bV@H0i#h@$B!c%q@H0l$P@H,_$r@.3$zRenu@.50c`@H,l%_@&VU@H,q(X@(hi@%$US@-_Q",
  "@&Ciq@.4'TS@&Ca%d@%qQK@$27f$e@$C-ub@.6>eS@.6<uQ@#L4z_@#D3QT@)?HjT@.4#gS@%JpPlaid out,@%L`Sin",
  " a dropdown@7wPor a row/@1|P of@8^TFor `lef@)DCcRup@'5JPR@$]Qwill@%M&_Q@#I=VQin@$E;YYor@$?!]",
  "Y@0cP@(!>Zd@$2;aW@EHc'e@B^]@EHbU@H!R0`@$HeX@$I;ZU@9lRor@;bX@H!OQhow@#/]f@)&q%TH@.HNVRs@$61lR",
  "@&qSitem@AWO@gP@.3;pR@%(1ZR@(EWY@'eQ@M/y1r@3[R@$*oR@8lP@I%lh@#'eX@%N0iUvia@#'__@#]c@(>:|R@&8",
  "6sV @$7!WUl@$8(|W@M&U&i@#$iX@GCW(Z@#?sc@%,g%r@&bU@GCb*y@/oc@$LX%r@/oX@GCl%h@$?fV@$A_d@#F-r#S",
  "@+p$^fr@$H9vS@M+Vq@KIpz@KBvUn@#,8XS-lett@-F9fR@KIZS`x2`, `y`@(!SV i@$J,cQ@,kR@&2lX@#u_@K3[X@",
  "'SP@(#zW@K2xT@(4uZ@&9,pT@$CyX@,EJvW@%;'l_@+b#_@#MB]q@%#|P@2`Pwid@'$.jR@AeT@AVQ,@3]V@2|S@#MC^",
  "btrue or@)A:^Q@#$Ob@K?UP@)$VV@%.VWg@$GBnR@#MhQ@(jP@#0-i]@)UQ@$,Nj#Cb@&$8mS@H`$X@$J?iV@%&AgXI",
  "@#BfV@+3ErSbe com@$GJ]R(@#I5QR@%51RQts own `scale@#$/TW@aOratio` @7YOo@BmP@-FuTaxis),@*H_Vh@",
  "6OOat happens: by@+06dV@7|P@&aQ@$?J^R@&5AcT@oQ@%&BbT@A4|U@'`U@*IqS@%D_U@&==YV,@(mU@$BFpa@(I-",
  "YS@,VWtow@+13TR@I7o$t@$;zt@-`$u@&;2xR@$8>zSe pus@5pPoriginally@&(2tV@&<0yTO@(pO@&*4cR@$MV^@+",
  ",aS@'A-lR@(hRfor@$I5dQ@iR@$?x]@#`[@)USfor@%<0n_@(I9bT@-vP&,K@';xP@'%g$f@$pQs@#7f_on@+-j]@&m]",
  "D@&YV@&jT@#)%|&_@(d#h@%!Nlh@#.Iw&Q@*=!jY@9uO@*=!ej@AAQP@0LZ#!Q@-M>[*l@1%k#'|@0*0ff@7]#p@'1f$",
  "S@$MYT@'1Zc@'!f`@(+0`Q@-2#qR@qU@'1tZ@#,0[Rdata-@*D^Vspace. Moreover,@(GDfYsh@%%6qS@$TP@%77SR",
  "@%GzSlis@#10]Q@(LHyUuto-bi@(G$zX@(+5iS@#|Oimultaneously@$E>YSa@%'_^a@0*5fU@'C-xUis@.:L[Uforb",
  "@/F]Q@&iT@$=0aT@&sXmus@%BFiQ@=TOam@#$FtR@1#WX@0*6cT@#21x)mn@*<GmjMino@%&7q$h@#25c8Y@&*(oQi@&",
  "?3]$[@(5f$Xa@J]O@(5^Y@#9qY@'nPi@'+AdS@#%^`@#jZ@%C#QR@%D,zT@3tO@2+|Rfor@#!sQ@%4jR@8YU@$uT@'>S",
  "S@&*1bRany@$bY@#bO@%8oQcas@#MI_Q@/,YT@#]Ppping@'zQ@*>(pU@%0=PQ-@0bP@%BKoQ@0`S@)3Y_O@-sT@&9Fb",
  "k@,%p%x@#N8fX@-mS@$%MxTt@-TO@$HLqS@)&db@'>nd@-!pU@(B]Y@N-aX@%+!nU@#2Jj2Pbrea@##|Z@+6rc@#]O@#",
  "SP@+6v%f@%uU@']S@#3!x+p@%C,pW@.I]nXaxis@#eO@#WS@#Dw$e@&SPli@(5U[@&Qk@#UP@F3l$f@$*fT@$5_'m@&*",
  "0zT@$HxV@$5jo@&*#PY@%$'qR@##CtQper@$5.tQ@%IMhQ@%-IXS@$)ISQB@#2lR@*GmQill zoomab@+95VRw@NXRzo",
  "om @(H7bR@'8wQ@IjO@hO@$2eSamount, kee@%2#lQfixed mid@%26qQ@&*5uT@%!?QS@'5dW@0?dU@%,;^Renfor@",
  "',MYQ@#PT@+BpTch@)!$hQse, i@%>AsR: !@/uU@%G-UQ&, xaxis2@m]yQK&@2*fP@+-[R@:cOlink@(%/s]@$7qRT",
  "h@&/KmS@,bP@#&/TR@$'jW@#9cQ(@&B#nV@#!rP@--OP@+QO@%1.bS@$K<dQ@#US@(.#WQcales@%!)UZ). Loops (@",
  "'hn@'gco@)KmPer)@#'+TQdunda@$!.|Q@27cS@$?[Uen@$.FwQe@(.EPQbe@&DhSto avoid@%!5eTin@'FJQS@#iVs",
  "@/LuP@'GvU@$D^$f@+?PV@<fU@<uR@*'=[&[@($jW@&.4aQ@+hQ@(I!URy@)aX@#JuQ@#NL^Ypixe@#yOunit@%'.YV@",
  "$#:R]@#bO@.?kS10@#:QQ@&GYPuni@GAgQ@%`R@-3[P10@$*=kU@$,kT@=tQas a@#^U@6QW@-#5OU@$%ERY@-#6rRn ",
  "elev@#(zPprofi@#5dS@-HTW@$?,ZSexagg@G_Q@=kR@##*SQ@$%&zv@/bO@*'>ZS@3Gu'x@(!]R@36|&Y@(&tS@#+>r",
  "V@##5wU@%4QSev@#$CnQ@#MiU@((O#WS@)[V@#4#^;m@'ue@#30uQ(ak@,6yP@.PO@%&MZU@1LSZNote:@%GtUtakes@",
  "%A7zQ@$(*uUmode =@$$6cS@)_Y@#4$U6o@JLr$o@,A^Y@,APW@6O^a x (y)@CxS@$,?zU@%FBaS@$RS(@$QR@(DQQ@",
  "IKqS@$]Q@&LgS@&+uY@(uV@JN]Q@#4*r$]@$aO@$GM`U@%J3QS@$NFvQ@,J'WSerie@%)#RR@&PV@#4+f]@((m(gS@(p",
  "S@)PR@%J$[$ktoa@&27]S@$3xP@*#uQarker@&?-kp@+RO@$C9SQ@2MbU@/pRlin@.M#RQ@$cT@$$tQ@#+ErZ@+'VS@%",
  "<HvQ@&D?iU@0lUis@'D0US@$),uQ@&YV@$Q]@*E0j^@*+QR@&.!wQuperced@++aP@%pQ@$OQ@'|R@$*nQ@$'JoSd@IJ",
  "gP@#1-YT@%tk@-j[@#6,USpikesn@$M#vb@-D|#q@$-(QTcurs@$F2_S@%CN_R@'CDmb@#-<zS@%G)qXstu@.A2UT@#s",
  "P@.HXP@`P@#-qQdata@+:!e^S@'mS@#4<y%u@'Brm@#1/pa@#4<]#+cabe@*E<o$^i@'E,VWperio@-Jvb@%0;hd@GU^",
  "@%!#Z[@(+dQ@,1mR@#LrQ@$I=]b@&.SR@4NkS@*ExQ@'5FXX@%wR@$5qQ@%b[@&36pR@.!#ZW@)DEeQ@5)RY@5!b_@4;",
  "ZV@%1%|)m@/+!RTon@#3;UX@1?xQ@%Am^@%YP@,3uV@(pQ@%1'r+d@#-Huais@$E=|]@%'/sQ@0I[Q@&D0oXon@%&GmR",
  "@58sW@7iS@%#GlY@:UQ@-&kU@#,IoQr@#,FVQ@$T[@%%NZQ@$Ty@0:yY@&$nc@#yX@-LFOU@#sP@#6DqTQK@$HKlQu@2",
  "!gQ@#aO@&7RQby@&C]Uor@&;lZno@'!.^Y@6zU@#;_R@#DSSd@(1/wQ@.<wS@&1IrT@#D`S@$M+xR@02!iQ@4q_@%1/Y",
  "#!O@2-u$[@CrO@&#_S@#(|T@#0vf@#HrZ@#J]#Q@#+9QS@#JSs@#-hU@Ic_@'7AxZ@&iV@%42VV@&S`hal@.>wW@#.1q",
  "U@'GCqR@*+%nU@+vZ@#+lT@6,^<O@#L!z(_|@$&Q^@$2?m,Y@64j#^@%,1[&r@#6,f7R@#L,Rj@*3d^@4DU#R@4<k$p@",
  "34VQ@2+[X@.G)j_@4AmP@#-LU$|@%|`@4Au%m@23gf@4Ax'x@(kl@4A|#[2@4A|%p@47x'e@8d`@47|U@#1>q&d@'[Y@",
  "3:nV@*9oT@tX@%!)fQn@.G*tW@00QT@$;tU@$-*PRr@-1PPty@$H9gQ@)I#OT@3<z'|@35ng@3=P%q@&eX@3=S*y@35w",
  "g@3=V%q@/u[@3=Y%h@#9q^@#:qo@+J^T@#BJq#g@)Ld%s@%%7fV@,-kq@,-[Y@3,s#r@#>b$y@#/;o$|@$,*n_@%ne@#",
  "=ty@-De%q@(TY@77YW@(Tj@&&*u&y@'rZ@''5ORet@%&%`Xt@=FnRxax@#3eR@-,u#p@-+`)j@&=%y&aT@71`[@HlW@%",
  "+.]f@)HwS@$.Ih_@''Dk&]@#!Qk@.#|[If@ZR,@%$ETY@'0WQ@''8kX@0DTT@3BjW@#HjU@#,;jmYa@%1Il$h@#/dg@#",
  ".dP@#/bi@9HS+Q@$03x&d@)LkQ@&lO@%L4sY@$2BnY@'%]P@%+DTU@85aStext@(<x^i@?_O@#2.RR@/LRV@&NWU@9.c"]

def schemaBlock11 : List String := [
  "U `@,TO@-.%^T@J|T@%/US@**%j[@#sQtl@$07QV@&J?YT@+&NrU@$/>ZU@4NOQ@+CFOS@.NoQ@'|]@#mT@%#$sXset ",
  "or@'cX. B@&%8RU@%F-YT@&iOur@2mQ@#=hP@$xP`@&,cR.j@>oQ@2J`S@%mQ @%31^R@']Xa@.%FQQ@&P]@*3QX@$07",
  "lW@:*q(x@$!5oo@$!5j#S@5?l)<q@57f)*v@$(!l(_@57fIW@$(+qj@$(+l+V@2=]8k@$(;Wjeaf@&8I_|@%3Ao&x@'N",
  "?|QW@$>4kS@*-gQ@*8>t]1@*8?hj0.7@,$zW@%/;[_@*mO@+Y_@&ILiS@2Gfzmbi@-(i%h@+^jA@&cP@0I_P@,($`Uov",
  "er@0LQS@%:6lV@&G'zRwash @$>-XR@%35a]@#|Q@0,tPffu@0,$^%g@(njR@+=6OXext@$H,QSincident @&6%oS@&",
  "L<uQ@I6|R@+1gS@%-.O`@(cP&,Kface@+?bPsepsi@.:(f%g@(ykE@&cP@'1lPace@,3mQs@JI`Sion@+(WPs math i",
  "ssues aris@1;fSde@%=EdS@%1LRR@/'yX@(|]&,Kfres@+03_R@)Y%z5@0W^@/fQanc@'#;mQ@$C+fRc@,)$wTiew@I",
  "+_Pgle; e.g.@&2L|Qis@&LLtSv@$$`Q@#OR@&5DcV@$A$XW@#[O(almost 90@&9']Uca@'ERPsh@#ARZF@*gQ&,Kro",
  "ugh@4Av&[Alter@/MaPular@&M'YU;@+XPoug@#I5lSurfac@+FQQw@4BjPnd@#0_P@$?8zR@#$KXQ@)S[R@(uS&,K@$",
  "eR@)T&R2@1z^@%B;vU@AUl@&7B^R@1.eR@0XgS@(sR&,Kvertex@Ai&r@%0+kQ@Ak#sV@)R_@#+kW@#+QS@#+of@+2FV",
  "|@#+o/^@#$X8v@Ii^@+38T`@&KMTY@Iny@7?`%|10000@2cQ@YO<br>N@40xQ@$DExR@'6CYWt@&I%ZY@#I8pT@#'ZP@",
  "7?b]@77v%|@(_#T@&HBaV@(_h@0M!w%k@(_#j@&H1gV@(_h@$B9oY@6mX@7c`n@,*LP#O@'HMu(iline@(0Amz@#UT@&",
  "MgV@(0Ar-e@.RU@'HNnj@yP@'G8x[@fQ@(0BTp@0ht@'I![l@%Wm@2D^R@(0Bd(S@*tt@(0-uz@#|Va@'H<f^@+vU@'I",
  "#_'v@2SX@'I#dV@2VU@(0CP#a@-[$U@'I$]h@wP@(0C`(W@6k$r@(0Co&p@'OO@,<ZS@(0Ct%i@Jfm@(0DQ,m@(0?R%^",
  "@<nt@'I#S)h@9hl@&&Kv+z@$$w#j@'HMXZ@.vU@'HM^#Y@HfU@&&NS#^@($j^@+g#h@)/u#z@#2l]@#)[Z@jS@#)[#_@",
  "(DmT@#'][@2=U#Z@)E_P@.>wU@(1LiS@-+d^@(4<`]@$<fP@$=Rc@+B5t#Q@#1^+R@7O,O@+B.Z`@')FiQ@7P#r@(JW#",
  "_@(JRW@5qO@;ERT@(!;gW@1dr@32U&g@(Ur@-tb@Cve@&By#O@%1|$1l@$9e&k@$Fd#_@(3Qbne@+CEh#Oback@+-X[@",
  "%%])h@2*pPack off@(NqU@)E/XR@.ZRnth@|P@$!NhR@,DQS@(&1iV@&3'QT@06fR@34vP@4ItQ@1&_Q@$K3pS@65qQ",
  "@)B&y_@0sP@&C4PQrim@+&iR@66xRif@8gS@/=>zS@.DXX@+2:uS@=*VX@/iQ@%=Mf$Z@66|b@#/.qT@17Z(fD@17UR@",
  "%80s$]@,MlWspl@%J']U@/9iRv@$!FTRh@XSv@lO@%AEe`@4rOhape@3OS@#yS@3QT@%#BcZ@rP@:MlQo@$H4SRT@97a",
  "T@8FuS@#/xQ@JvXstep-wis@$vV@2%SZ@'D-dSmplif@)(1d%kS@%vPi@/+]Pes by re@%95dQ@8BsP-col@4:TQ@JT",
  "R@/91sQ@#J4iR@#1RPnes, i@$MMkSdesir@8NdR@6#vQ@#I(aQ@/+`U@3DtU@&=+_Q@,>ZS@,1JhT@$!GPSis un@&8",
  "CXR@2&vY@*bQ&@.GKk&e@5Kwb@%8<xT@#M0rT@3aR@-2xT@#I9yT@(TR.@%8)x[s to n@'=2oR@=WO@/:4UY@7pV@$o",
  "O@2$ZY@.H!PV@#/R&e@8hO@&83ul@#.[Z@+?5i`@$(!SQ@&%q%Y@Mc)c@$K<w&a@3^#X@+?*e`@)$>^Q@&7S%g@'*!UQ",
  "@(?HhR@%-_X@(A!on@1pO@#6gY@#3d(y@#!v&b@Nog@;HgT@(A1`V@%B%lX@#!_f@Nh'R@(aV@%#LsR@+61iQ@&=3PX@",
  "<cb@+?(f`@%:9zQ@Nr%f@$J:_t @+;I_e@$.3Xh@##p-W@#5R#c@+>LW`@%<%VQ@5[3O@#7P#c@+C=O`@iO@+?2d#Q@A",
  "0f$V@3wO@#7UQ@)C9dT@0hRin @+=7iR@$#+oS@uT@0!<SQ@''NxQ@4ta@-Lu&s@(s]@.7gV@#)0lT@,3ESS@#cV@#/x",
  "Ply@.*gR@$9eT@$<`P@,;PS@3BSP@/9EmQo achiev@&;/xR@*y[@&McR@-Nfk@0vP@1dc@+?%b#Q@&EO%g@(1P#o@(A",
  "f*T@(4g#X@+>GT`Line@+D1W#Q@$<i/y@#:t#b@&.Wd2@):o&n@EPW`line`@#(DrR@:_O`nod@%B:b[@EO*k@+kq@2m",
  "b@)6`d2@-N7n&t@)Qflin@&7;rZ@2n+S@+k]@2nb@);Yd2@#(o%f@>6|R@>'jU@>7U_@)G|&m@#!dU@'vp@-db@#!ve@",
  "+E&n#Q@-d$g@,49yZ@-d'b@'vi@-db@&.Zd2@&.Z%[@IYW@'1&fX@*1q'd@'vf@-[b@&(Xd2@&(X%[@#Kzk@#EU'o@%E",
  "[d2@%E[%f@=aTter@%?1YQ su@'+KyQ@?<TP@Dm'i@(Zx@.Yb@%=Yd2@%=Y%[inn@/I?uQ@?=`P@(6_R@9]'X@'uh@%(",
  "-Y]@-bb@%5`d2@%5`%[@9hS@8?VZe violin(@%'5hY@##n'R@(Rs@-nb@%1jd2@%1j|@$Ju]@3AY&V@#NNhTdash@;A",
  "OQgap@.#Kaaline-dash@#lO@%AA`y@'NPP@$Kp&Q@#'zd@(lc@nO@(h#`@2[b@%1Ud@),P=j@)+V&O@)!d0W@$CVd3@",
  "&!g|@?t([@%&9cZ@&]O@34mR@&DMeVset pe@&/0WU@51lP@$MwT@'#dPdas@0(=[R@%,|T@jU@&3b&q[@3MOQO@UO]@",
  ")q#p@#/$bQ@)r`@3CVR@5Xm@&%Rd3@&%R|@$$]'[@/:-lS@,m%]@%LQd@%4R#t@'6e%n@,#Ic[@%N0zX@$&N]^@'7`,Q",
  "@%:ad@)Aj%e@;qf@$ET'p@/:Nd`@-h`@%;cd@)1o%h@$%x$X@:2ie@/DL[S@#1uS@CJiQ@;)lS@#3VS@^W@pT@#4jQ@$",
  "%?^Z@#6TR@#LpS@$$c%S@+.W#a@&)?SU@$#W#W@#Gm'n@%Erd@%Eq%[@*5q7j@%L8dX@C9gQhe@(I?QV@%9VS@(I<^T@",
  "%L9pZ2@#XZ@,N%be@>zl@&*^d@&*]%[@.!t'c@/HLb$_@HK[Q@6?X]@/HLnb@1RV@(,EOV@)<mW@/HMZY@#nQ@8z&e@)",
  "OV@#JY`@/I&wt@7CdS@-3v(e@&:RaocalMerge@,>#|#R@#aO @#bO@,>$OVm@,<4yQ@:]O@,;/lVm@yO@%K(ZT@.0OS",
  "@%:rP@#ZQlo@;1ZP@+G%o%Wsq@(hO@$vlsq@'N1fT@4JkSyour@*2OPdata@##jVq@%&9lU@$dT@(SP@$gP@$WVA@'N3",
  "oQ@&pQ@&N-]jmodel@.MIw$a@/[P@.MIwW@.ZP@#`T@$7OQ@',=yY@'eQ@',=|U@1XZ@2O^@&H=jR@0/g#Pexp@&*<c%",
  "mTurns on/off@6FhQ @&[O@,=-|Q@&,7vVL@%MBWR@G[Obars,@/DJlUs,@%M>XR@B#sQ@#'.fW an@A)tQ@I/vR@(K",
  "7oUto@6Ih]@%9=sT@G7u]@)yQ@-$#Q]@Iz&Sttom@*nR@$!W_BK&,K@5#j%f@$(Lptft@'^gLK@#0AP_@'`&Q@&.CXe@",
  "76PV@#2%[X@73uW@#!ZP@(fUPadK@0<Ma]@(f&Q@:LkP@-xfRK&,K@C&j&W@74kT@#2CdS@9'Xa@#,ZW@HmR@I[ak@.)",
  "6|#v@#Hs#e@#?nT@*!+i[@+6e'O@'uQ@+6lU@'wg@.)%jh@2v&Q@'uQ@%+0mR@'rg@+#6k[@2jR@3Xd@)Ns%[@3XZ@+B",
  "zU@,=+OS@(M9RS@'LxR@+#HxRio@&M-rQ@4T'e@(s#c@5P'Q@(n#c@5yb@**Z`@(8*bR@5y.V@/][@'7x`@(8BfR@#(e",
  ",_@-e[@&?w`@)0L^R@-e#`@)*c&V@)+5|h@/hQ@)j[@&;y`@.+7yR@8Kd'j@1j#g@&._`@.+9fR@)|(O@GO$P@%G[`Me",
  "anl@68a#Q@GQ$Xea@/#LfQ@&NQf@($FZ&R@::PQ@(9&p`@.!3mTean@B&jS@%H5dV@*!bP@&GDPQbox@'2$|W@*$-eS@",
  "3'rP@)bT@($HjT@#mT@*0`S@+I)|W@#Zbfr@C1aP@E'vW@%VP @'G<YR@MLtc@%?z&e@(`T@*6xo@5nT@6_`sh3@)M'o",
  "#_m@#hP@&u[Q@iQ@'G;ugphahu@%M-vZ@*%_%Y@'EFT^mesh@&!+PS@/K*tR@)1iQeriv@&H'rVse@&%0hUes (@)41Y",
  "Q@(N%UW@(N#sR@)/E[Q@&0VPz@39OQs@C*lQe `i`, `j`, `k@lR@<?PS@J!nTFor@,#KwR u@I&tP`@+RP`@%-5gR@",
  "&C(hSthat@#|[e@#pUIf@(6)bQ, Delaunay@'fQ@8AwR@/H5zS@.<J`Smainly su@$35wQ@&^Q@)QOis@7GpS,@:Ba",
  "Q@0.I_Q@FClP@)rS@J(PR@&!3mZ`d@%QQa@'M<]Q@3CxQ@(hO@kW@&,FVZ@+zWat@&LB|Y@,)'SQ@%,4OQ@,?H[Q@,tT",
  "@&;zSvery@K5iP@J+`R@'J0hV@%i[f QK>@0)(RS@3YO-shape@'LGWU@&H3RT@E)oWt@E!nSve `@4iS@#56PRsign@",
  ")4?^R@-QQ@$Yd, _and_@,A-oUac@2J]P@3NPP@/<9rR@'%eR@(rOfitting@&dQ@&cSconvex-hull@&c`t@GVO@-gR",
  "for@#TQ bodi@>$xP@.OQinten@/VRto@(1VQ@,bQ@3oZ@+cP@2;kP@,>BSQ@#yOhu@2MTYA@;^S@.)2b3n`@5|Osity",
  "@'9=e*]@*jT@3<dX@'9=i)w@*gT@'9=m(s@1me@3Lv#p@(:j#lwhol@#(xQ@3Fx,e@&M(Rlesh3@)MKZ/O@'9Az4m@$,",
  "uV@)KU$X@'!3SZz@*!Y[@$6vS@G9^Q@$6eR@'7_S@$5Ud@IgO@&$GtX@$8ka. I@A1bP@>:jX@$:f[@(<!rV@;cP@$1q",
  "U@)AVT@&G!kS@$ec@)9tV@*aV@<&uQ@%It&j@#/bS@4YO@+POO@L-gQ@)0rPlo@%.!`RQ@;:TQ@cQ@<&Z[@)!nS@':$c",
  "4]@#7vP@':$_Mg@#Ly&]@%-MiR@&1[Qex@*)&kR, i.e.@BGQS@$1yQ@'&pR@'&dP@.>ZXt@G6PQex@,-,bR@;<k^@F#",
  "oT@zQ@(9C`Q@&*SP@$3tZ!i[m], j@TOk[m]&`@H,PT@$RS@#=lPm (@#jR m@+'NrSmesh@L=XSi[m] = n@&#nQ@'7",
  "&ZUiplet `!x[n], y@TOz[n]&`@#lR@%zQ@$;ZP@$61QU@./6eQ@($DqSn `i@,-5XW@E:hRin@$6aR@#LsW@LXP@(S",
  "a@0_UI@0VO@(<(l*a@%1PQ@$$f&e@&rS@'8HnV@'54lTr@,'?`Qa@&&JuTby@%7QUm@19aP@.B6gT@#6yS@)FzS@'#Bj",
  "Qon@#L^Q@)tX@)mS@)zV@C$R$]@5xP@N'tS@/KJ_T@,0tY@&#AuQof@%<rW@/Nd^@&pS@BHZRj@Fd(w@/L&iS@Fe$fj@",
  "Fe$Xj@Few@$3NqQ@FflJK&,K@MJaY@0X(ithir@0W$jk@0W$Xk@0Ww@M8QP@0Vl\"K@';%P(r@$;cP@';$y$#Q@%Cb%c",
  "@E&hW@':Fs>z@'ExT@'Kr&s@%%OQ@'Kt^. While Red, gre@'#KVQblu@(BaR@'.gQ@-:fP@ANhR@A8nQ55;@#COZ@",
  "+K+oQ@$iQ@)4^Qata in RGBA@&LcQ@*:]U@(DcR@M)yT@(JgT@)69sQ@%1VW@+$9YX@B4SP@(!fS@':BX.q@%$dPnt@",
  "%8uTof@,2!pS@*Cx[jointly@%=QU@$WO, Y@$;3XQ@$a^nt@AAbe@)7=XAW@':Msh@Ds$lY@*TO@Ds*`@)7+S7n@';,",
  "ah@Ds$lZ@*TO@Ds*`z@DscZ@DsV@';7|2v@-:OQ@-:jd@&EMo(HW@(HbX@&EMf#'V@)NOY@)Nrl@&EMS;u@<Z_@=Ud@'",
  ";*zMs@NP[@Nud@';*r,x@-Ub@.S_ino@9Ia#O@+;cDk@#04v2`@+)v+j@#,(d(o@)Hl2`@)AX%S@(/S5Q@(+o)`@'MS/",
  "c@$K|V@$KPP@$Kk_@'69yR@&*bz@#:1u$]@$(|W@#:1jQ@'82zR@4+xPico@&D5xT@'6?fQ@9;cX@#:1wXad@#47nl@2",
  "4p$j@7,n[pre@&7_R@&xQ@#L6YSto add@31o^@23`P@#M;kWon@3-nQ@2BcP@)gO@41hP@&66oZ@%>_S@&F&XQ@#M2b",
  "T@%L$jQ@#**uQ to@$LDwSmodeBar@#:&VQToAdd`@&:+XS@8%wS@+>5oTv1@#-;[S@$.^P@^O@'8.cU@aR@)DiP@#6E",
  "URggle@gO@`V@#,1yT@$0PQ@&4BTS@]R@'9K_T@aR@'9LYV@cS@&6:SU@&4C|Xeraseshap@#6<V[d@=IsP@#9!v$q@3",
  "R_@$:ASV@7U$d@6ml@<'xT@&>3k%d@&Y_@-/dY@22OP@:|&a@&kP@8gpR@zO@8jhautoScale2@$FnQautosca@5nRed",
  "itInChartStudi@+>LcQeditincharts@fU@9POC@9iPC@&$NjR@:Wc@':1mQ@YS@$yRorbit@&.DdR@bU@&*4xR@bPp",
  "@$ORpan@#]Rpan3@YQrese@#72zResetCamera@'5lQ@tW@iPLastSave@jWGe@%kQ@]OSankeyGrou@($fQ@eP@)WV@",
  "aOViewM@-%AmQ@dW@>yQ@_Oc@$mO@.vQ@g[lastsav@(pQ@hOs@$uO@&?ItQ@eT@+mT@_Ovi@+?*WR@^S@$mQ@'6LVT@",
  "ZR@&SRsendDataToClou@dUdatatoc@dTtable@+]X@bO@+]XtoI@&82OR@EtRH@FXZS@FXY@GSrto@&84RS@%L)_R@X",
  "R@&mRzoom@,[RzoomI@.]S@]P@,kS@^P@+lVzoomOu@(_S@^Q@#SWO@&6'jR@bT@*!.mRzoomou@?M^Z@6bP@33z'V@3",
  "!o_rel@EWO@8=qR@>PP,@,04lU@';LeU,@&5FQU@3,bQ@#.HWT`@)4GXSt@)!C]R@*#GzQn@(?*qS@#1NpT@$;)l#b@#",
  "8kS@#9Zb@'Bk|@?7w$q@?0|Z@&u`ysqlTarg@-C1Un@&UXSqlite@#^Ps hol@$,`P@HIYU@84jWo S\\Li@$FXQ@6Hw",
  "Qs@/>I|Q@#%;jQ@(4HbR@#06PSmany@-+CcQs@#09wTe@-/CiRup@,7LqR@5F^R@#%=]S@/>KuY@#)5wVpu@)%=bRfro",
  "m@7HdU@33xU@$kSex.)@'?0WV@-,!Y#uQnQn@;=yPbest@-/?|Re to@3ROrag@;=UQ@,7MW_) @,7LuX` jinj@#(3c",
  "Ufor@-/F]Ssecre@#17^Qenabling@'kUpermiss@);NxQ produ@&K%wRtag@73fPd dev@?Iw%X@,7CZR@#4S#h@,7",
  "DZSur@&;4cS@,qR@,7Ca[@,7I`U@%Gdh@$y#O@,7JaV@$u_P@)!NhQ@kR@?MZ]T@#]U@(;yT@-,)UX@#.B]T@58cPrie",
  "s@$]VD@$TR@*h^@,7HmV@*l#h@,7H]R@%IzS@'o_@,7IUS@,7HrY@%PT@,DiR@nT@&`Z,KwriteOnlyK:true@%v#O@,",
  "7IZR@<Mpa@(eR@,7Ja`&,Kdb_schem@6!ta@1w#Z@#zP@-]#Wb S@%cP@#*/RU@<EvSys@A.wP@<ESY@EtT_pool_@><",
  "fd@3vp@'?Lc`po@&A8qR@:'PR@&=DbX@$zT@'?BZW@I]TPool @>9gS@13lV@4zS@'dQ@13wV@LjU@M]^Ohlc@<Mi#^o",
  "hlc@<Mg_ohlc@03Fj2`Ohlc@03Fc4vOhlc@03F[2lOhlc@03FT+hOhlc@03Ez9P@.J>t$g@03Ez#4_@(+g%n@J[e@0HH",
  "fhopen/@?LoQ@*EhT@/GVZ@=G[Pminima@J1zQ@08BmZ@.*zW@*!(UG|@03EP$!RO@(5_P@(7b`@03Do#W@&:Up@(%,s",
  "$p@'QY@'tb@03=f#&k@#&sY@#'ib@03=W#W@#-b%m@037Ui@(4a`@/?u,g@-S`@.O_@##su@L,i&c@,/R`@+J0Xq@'!z",
  "$j@+J1l3S@L>x)Y@+J5Um@Evv@G[^Pad@,AJi#O@)6j%h@%!<XX@2:ne@%&=xX@(DASU@$#qV@J$k%i@'fm@'J6_V@G2",
  "bV@'faL@IKY%i@'ft@)>mT@'gi@IKb%j@2iw@#<,[W@'c_@IKhX@9aO@9ya@I9W|@J<c&a@#6#mU@%'*VW@J<m&z@'j[",
  "lef@'F'ha@:R%j@'h#W@&$+pQ@J6h&y@'i[to@*;6kQ@J6rh@9mO@:X`rca@),jQ@,%Z#X@,K0jQ@,%^_@jQ@H#wfrra",
  "ng@&C1p$_@E2pV@85|R@'#)nQ@86^Sx@#D&ST@$GbT@&*DuY@/:nT@#BDcUand@,NJeU@+8OP@$iW@3(oQ@#UU@#;>ZS",
  "mov@%'<gR@&5MOR@E6l_pa@&:vPf `@&VR@#xafree@#zR@';8WSa@?<rQ`@'WO@#[]@&`X@$,*YR@.WO@#1AzYA@,PU",
  "&,Kbundl@.HrP@9#^%kSort@%+0_Q@*CnRl@#9=oS@'kP@&qP@#>CgYi@)G=sR@0(tQ@GsX@'wV@')DxR@+7ni@N4n)O",
  "@'#JsXobserv@(JlQ@H7XY@/$6RQate@5%uY@-eS@qT@BIcV@:dO@#|T@$7PX@,pO&,K@4cT@78mq@-$7zV@78h%d@%t"]

def schemaBlock12 : List String := [
  "T@'YO@$H;Zt@)2Di'`@*.BhS@*.8OZ@,1_(U@/*c$Z@#5<xY@F+PR@(8PP@2gQ@&8Y^@&+AtY@#:'jX@,L8`Rdiagram",
  "@*`P@$`R`@'F9U^@2.MYQlace pe@#%bS@)/*OQ@H4gP@'F:a`@#ZZol@'LiP@#eY@&iS@#il@.![Qall@#$QVper@-$",
  "Cjb@1'>n#V@%2R#V@)2GY<loun@'*FoR@##lR`,@EmW@ZS@|S@DQO@0A7bQand `b@'*.wR@dP@EIa&zl@&-pR@95|'T",
  "@%IyP@(GE|R@#!QT@%(<VY@,LVv@$0ZQ@,LY%O@,>g)S@,dRi@'F,g$h@,9]3qsortpath@2+V$Yfor@0BBvU@0BCXU@",
  "&EB[Yath@#EDqS@*2+sX`@#fQ`,@pO@$CbQ@$1'nS@JCwT@#GhU@-;?Rb`@$wR@#oks@#p[@'B)tW@':lX@)lS@:8b'`",
  "@#$bX@#0kS@#$aW@+FYC^@)BSj@&&rR@&'ae@(/z,x@-Vc@.Uf@#HoR@#1$X)`@#1$Qw@#1#w-t@#1#pn@#$$OZ@#1#b",
  "p@#1#Z#b@$of@#1!y(T@#0:U#p@#09|d@#1!d'z@#1!]^@#1!U#e@,e#|@KNda@#0Nm(V@5_$d@#0NW&j@#$MW%o@H[f",
  "@)D%r-a@#?nU@)D%n(R@#1$c*^@<ze@L*l'V@'+P?Q@ErP@'+SV@')l&z@#1Gq'[@#1Gj#Q@#1Gc#^@#1G[#i@#'Fs$l",
  "@#)I[X@9%xT@,ID_Y@)3yR@#`P`,@&6oQ@6$hRosed@+1zQaight@6?qRIf `@$YQ@#Vd@,NiUcurved@#)JqQ@%!,aX",
  "@#)H|S@)D=g'v@3Ot@0?yY@':1m]@%7UV@%7ui@D2q(HW@(Hg^@D2v#'V@)NY_@*!Tq@D3S;u@<`d@=`boor@(+SQ@28",
  "|#]@#kP@29Pb@lO@<<ef@<7O+b@2&z#W@$+2|%f@2&z#V@;#c$g@-EHi*bbel@'1q&U@'1l#r@'1g^Tilte@,jS@$dO@",
  "#GB`Q@#hOQK@>uR@#KBZUbette@&9vS@#/9kR@-NiQ@&,iV@#HKPZ@#+yP@)GcX@+iT@1-s(Z@ZO@%.5g$t@+./fj@0F",
  "ZP@$?EST@,J^T@&-uRbov@+.-aY@#.rP@$`U@#W[@',;fT@&J^P@1i$x@*|O@17S#Roord@17U%P@<4a5s@9XT@1Dw6c",
  "@*yO@#2i'r@$$EqV@#KBPV@(`'ptick@(_W@+/$x;m@#1]S@+/$x,[@1Gbn@%2kR@%4xe@1Gf-O@-Xa@.Yh@1Gj#?f@#",
  "?pS@1Gl6`@1$O+j@0JZ)k@$9uT@$:jk@0J_(H[@(Hi[@0Ja#'Z@)N^]@*!Zs@0Je;y@<bb@=dg@*&.q#W@DCyp1@':H|",
  "$e@(Y_@*&+PiPi@DP|@1#e[i@)%Bt`pi@)%Bmj@$6Fdf@(%R%i@%HRRe@12GuR@+IcP@#=IyZ@-*[[@$6DvT@1)S+d@'",
  "1=c$a@'#=xr@):GSY@#B-bS@$=tSsucceed@MH`Q@*!$mQllow@$eO@$/(YQ@#8-SX@'1=vW@L0i^@,Gy%d@%%fP@,HI",
  "y$Q@'92|$g@'3KT'ci@15/iYmake a donu@)&IoQ@;'jY@;KPU@,I#p,tPi@)=FWDX@0GzP@,E,f`@,E,ZR@$)?nQ@&",
  "!VP@*&-y?[@'uT@+.R$e@'7.WZ@,B:QW@'HB^Q@`T@H:uV@1$ZS@+/Tb@'8oP@'ePchar@*$-qS@$+9VZ@'AkSex@#L9",
  "`S@-2#US@'7,bZ@KLnWbe as big as@$1<dV@/+uR@$-5zQa@*$:sUe@'hZ@#ENeQ@$hP@&JNaTb@'HH_T@#5,zT@F1",
  "OYhart@0M`Pmay@+%/PQext@23mS@%vV@#J$uR@MtOgoal@%WR@*`S@%S_@#L>SU@.(5QS@/PV@'><dQ@+jV@#j_@E-^",
  "`@#ua@7RV@1Q`@,I3X:yPi@)>Lg8X@*&BvmPi@*&Bs$n@*&:e?XK&,Kpu@#?/qZ@FJZ(m@&'V#R@*.TQ@&'YTpu@$6Jf",
  "R@'8/jRu@$)5VU@0D+qRT@KJ[P@'<5dQ@,-|S@#cR@?fOlices@)83cQfrom@+$XQthe@%kQly@1#UWto@1KLzU@0WV@",
  "#mP@4mWP@(tO@'34d%qInstea@(=MsUrst@&wP@$%gTat 12 o'clock,@+B?QQ to@(9KmQ@#JWP@#9Kj[@'3.[Wc@,",
  "ILl$ipi@$5mQ@NKwR@,ILk+x@*&Bz;d@,J%k)U@+C7y#g@,J&W7[@&Hm`@7nY@,J&WyPie@,J&PMiPi@)L`a@(>rW@MF",
  "rM]@*FUV@MzW@Noa@63i,y@-R^@-za@,J%R+e1@*<l$e@/aX@*$1Oe@$:US@:w#n@,J$r+l@,B]T@'>GT`@'>G|#R@,J",
  "&g-Z@:|S@;k_ostgre@#*:PF|p@GYS@;DZ_@#*:U&s@Lt[@Ml_@)yP@$.Mw#e@'5^%r@$%J[Q@*EN]X@0QQ@+&1eV@M2",
  "^U@(#^S@/)oX@+(8cQ@-M*rW@/LXQ@#rS@$YT@&14bZIf@2AqP@#w_@#ikin@KpOane@$1B]Z@$/$Rf@+g&ly@+g&Q@$",
  "/'Zf@+g&lz@+g&Q@$/*cX@ARS@Aoe@$/?n#Q@IsR@N'|$W@%,,iR@'6WR@(#A`X@K)nY@(#7qZ@JeO@($2nY@#%?]S@1",
  "<tQ@$]Zor@$^[@&NDy^@#VW@#IXXy@(#:UY@*WV@*w^@$;7fW@6;pz@'GNY^@$DV%l@#)5P`@$0+yQ@8<wU@$:'yX@:<",
  "RP@(qO. C@)C]U@&D^P@'lQ@'!FoZ@((*PRd@&&%w^@*'c&Q@38xReach@*GnU@##+qS@1dU@5MdQ@#&&`Z@-7sX@&&+",
  "RR@0$9V&X@.g_ @0$9ac@#..Y[@)MsP@6fP`@,DqQor@*<rP@6:mU@$4.eS@5D[V@0$:vT@%,Ao-P@3dQ@Kt$Vd@&%cP",
  "wee@1C7tR@1>M[U@6+y`@%jQ@'5NXSim@8?|Q@+FyP@##CUS@3QP@&NTQ@$^X- day@''|Sweek i@(C-hTe.g. 'Sun",
  "day'@-?WPun` (@%,2OTs case-insen@'=HXS@&+/ST@$=!uU@3GWQhre@$A[P@&(uQ@'BiW@$aP-@L(mP@&+dS@#>1",
  "YX6@&gQ@(dQ- hour (24-@WOclock) as@3!mY@#jZ24.@.)wZE@(*nPs: - !@)xR: '@(yU',@IyQ: [6, 1] &@+",
  ";|U!@lT'sat', 'mon'] &@*rQ@$FSPSaturd@)HXPMonday@4)jQskip@&-kQeekends).@%VYhour@%OV17, 8@$WZ",
  "5pm to 8am@$OWnon-@>lOhour@#N!vY@($$OU@)C.x/^@'GW&R@&)f_@(3gS@#N&h[@$CVU@#&qU. An@.%+rXo `@(",
  ")=dQ@4>XQ@#4VP@4>UW@4GxV@1;RR@1!6eW@'Hk`@#>yU@#>YW@#>z_oo@,M,T%S@-CEz]@)cO@*/%PSfor a@-J)jS/",
  "@)L?uQ/@-H6^V.@2dP@$7BuX@$5(yR@:FQW@+'1cV@/,UU@99b_@)nV@(zO@)g`@(&=fR@/Eez@0LDu%j@&|O@'I.OU@",
  "0mPmeridia@=]P@0LDj&b@']a@(&LXU@.4*b]@$!7SZ@%/CXX@(*-ZZ@#+4P`@(%#ZQ@#I7V%jRo@,MHzS@'IBUW)@4C",
  "tZroll@)NeP180@'M8^W@)rO@(1RPup@KsOdo@5MtYRol@.8JiX@5hT@6X`@4%jP@&(puRow@(IPQ@(*mX@'*<i[@.9>",
  "QTgri@+'NSQ@.9CXTmany@,6|P@%K|]@')AdUll@&Eua@,&$nU@*rW@,&%uT@&,vY@(.oS@$G.gXow.K@'M=PR@%Njl@",
  ".90rT@#+gP@&FjUtables,@+!eRo@(M.]T@,<XS@.8#ZT@(M-[U@5(nW@%;oR@,:oP@&GyQ@MCZ^@.93_fItem@):^UK",
  "@$sO@-dT@#M/bT@.]Tw@.V_San@07>XR@03S#Xs@#hP@03V^@iP@##Lh%Qsn@*JCmS@##Ls|I@+/GXQ is `snap@.#?",
  "SY@38xQod@9;OP@&vQ@55QR@'%yP@+L$uU sn@9?WQof@*CVTto@)+UT@(#LTXnode@$E9jV@3:rPodepad@3:sP@%iT",
  "@#$!W_@#cP@#$!R|fl@').WQ@$ST@#$!ZY@#|T@#$!Uh@#cU@#$!_U@,%7uT@##Nwq@*46e,_@&12^$h@0(]$n@0'R'e",
  "@)C,xdis@(H?rT@)MnPnode.@+5TU@,DrP@dYfor@:eRnd links@+06^f@0)m#Q@LTP@,6#n.Y@.dP@?1r8Y@5UY@9U",
  "ai@)lO@8v$^@$?)nR@%8VS@%SP@)C?xU@2'-`3s@3)TZ@8S`N@53bP@8S$b@#4mP@8Sc@#21i%e@%zQ@#%(XS@93Re@#",
  "-=^.s@-+op@?Bm&mno@$;-OT@,2P:|@8-R$Y@7AkS@)8(W&V@&AsR@67Q$OAdd@$A:aSto@$H*WV@%0eQ@+4qVtoolti",
  "p. A@29kUi@1.WPpa@'N6tQis necessar@'+IRU@9.j]@&=sP@&(Ngp@,7h)f@%J[Q@%Jvd@,7nMs@NP[@Nud@,7t,x",
  "@-Ub@.Se@%5zR@*J)nxow@=#Y&j@$&!|]ks@'+)bRif 0@'+)qS@(8[S@;=i]A@(_R@?HV%m`link@)LJbQ@#J1[V@+E",
  "dSval@'*FuQ@&/dSf@(D;cX@$_P@$77PS@$,9oR@NFUQk@>AyU@18GZV@18FXV,@-J-eRlucent gre@$CJvQ@+1>YV@",
  "?Gef@?>UP@:#eq@0)9aW@:#a%d@%uU@'/i'P@&?ZR@.rO@'+|e@'(a#v@;Ham@=HhU@1I$QV@''gu@'/6TX@;_O@5,v&",
  "c@GdT@33NfIm@Jq^@#,O%z@.,2`a@#+w[@.,2ZS@#--fq@*6BT$i@'N*`]@#5T%|@$4iT@#KbQ`[0..nodes.@$2cS1]",
  "@%GeQ@.*LgY@#L!oQn@&3)bZ@)KMjU@-ATT@(n'i@.A!|Q@(n[@,IqQ@)43[&dA@4GxS@&,;nR@#KExYflow volum@%",
  "HQd@$3Z_in@1AIU`@#:f`@%?QMn@NTY@#!PdN@(0wR@$+>v&h`node@%,a#m@$0(tQ@$GSPd@BL_V@%,aX@3dV@(K?uQ",
  "@%SQ@E+Y]ycled@'2L`V@&1KeQvarie@49uP@/K`R@)?_P@9;mS@;DQRfully@'.(zS@(KGwSsom@()?tZw@.1|Qbene",
  "a@63lQ@#5`[@1>Jy'U@%)|R@'s]@%)|W@);cP@,&Z&VG@)?uPof@(EQP@%:1vQ@4)PQ@#N!_W@3jS@6?yS@(:mU@*EoT",
  "i@/5gT. M@4-OR@)CWQ@$4WZ@#;9fY@)hO@%1r&f@)nQ@%1r&gNod@8<tDX@%1r,`@#3n[@%1rz@J3c$g@'5%e'Snode",
  "@=+vY@$*-vQ@**Ku&[@A8|b@$1EQZ@'u^@A7mW@#42q&]@*8sP@E?eS@<FV_@7Yc@.$!h&S@'uh@<3u]@'sc@.$![X@$",
  "4|U@$5mh@%5oMy@NTY@#!P_@-7qP@.!l#_@#iQ@.!m_@-9zR@L5Vd@,11e&Y@*3YQ@$M4YU@,11t#V@#fc@.!/T$z@-*",
  "Da'Z@*;eS@#6tT@+0bSn@$7;O]@-+AT6]@,19_o@KZQ@,19]%e@%pW@)#4a$g@((-y]@%Kg#w@%K]Utozero@%%'kTze",
  "ro@$$LuRtonex@+<=jS@]P@kTsel@(4&TR@jP@$D:b]rea @-.4PR@D.wRol@%$7fR@>#TZ@%aQ@,+ByS@8'sWtack@&",
  "7lSi@,+B`Q@%nV(@%mU) if@>=Rc@,-,SQ@:;xU@&;1TS`@&)=VR@7:yS@(YW@7HUP@(xTfill to x=@0IoPy=0@.4d",
  "Y@)OV@#aR@%|R@#aO@$DrVen@,*TQ@;8yX@A:jS@oY@#:VR@%>wQit,@2KPSng@'7:zR@#US@-NdP@#)AYW@$KBrQk@.",
  "IJfQck@G6tQ@-4cP);@'3.sWn@)$)zQ@$fVthey@.H=vR@(13OQ@(td@(RP@.rQ@%sQ@3:tR@&v`(@&DqR@$2%iR@mW@",
  "#:yPhas gaps)@$)I^S@&;7zU@*mT@*[Q@B/jT@#5;bUw@)$.vSif@4XO@3H^U@$)LUQ@-)QQther (e@(3(|X@26vW@",
  "%$0VQ@&7)rW@'iU@)ji@%zW@8BuQ@&:6vQ@$#ZP@%jP@%&-uQ@$M1QR@$*!uV@=8^Q@:<YQin a `@,oO@(-7qQ@#3-g",
  "T@1tR(or b@(6/WSto)@.7xR@#fS@,1^S@*:[QWi@+);tV@$UVs or@&JgP@#aQ@/fSnd@gPno@&4lPfill-@HGQR@#&",
  "vQ@&:CQS@1BQP@*QU@$I:bQater@%?QP@&%yR@,,,hQd@8?kU@$I>fR@'8-t]Fi@9&xP@1F>o'rf@*M&iT@LQh@*M'e%",
  "p@0gO@+=;n$d@DF[Z@83pS@#6._c@6kW@$*FsSan@$+=rQ@$-iT`@&pS`@%%DvY@8T[@9xR-@#=1uUif@10OS@$/9OS@",
  ",4ZU@G<lR@$-gS@IJnS@*_S@+=>fX@$J%jS@*C9^Ris@%TW@$24ZS@(XT@7gP@BMZS@,IQV@#19pQ@4MaSis@+=6][@+",
  "=0sT@#VP@AFcT@(+#YQ@0B?pR@*eV@(#JSVbu@I4VS@#3LZQ1@.DyP@G?vP@-K9dT@19VU@96WW@#=7dR@6QP@>mbn o",
  "@./JnT@$%9[Q@+WR@%4UU@1pQ@%%-WR@IA]ZG@1xS@#;Fl,n@#=uQ@27&u'g@#/bP@/YPfill@27&u#d@+>&TR@)*IqU",
  "@0:wP@$+=nQor d@#pOy@#cU@#)uQ@&<CjQ?@E(|Rfill@AQP@#.[S@$K'wQ@#-kQ@#8zQ@:VQn@$/IaR@)*LcS@((w^",
  "@()&mS@*D#tY@BpP@([T@#1:O#d@$(3kHq@>%kx@.#Il0Y@=*e(o@#?vQ@+=It9P@#3Mg$g@=.Rn@<oQ@=.V6f@$M2j$",
  "k@#AJnU@$;qQ@%!QV@).Km#R@$M2u^i@)(<sT@##QR@B$_Q@'&vR`@E#SQ@*',iR@$xS@$>qS@()&TZ@/C[R@MH^R@#>",
  "YU@$.D_Y@#]b@%$fW@$BrT@N|T2@.DA`S@EGUS@/FhV@%KXR@$Cca@)sO+@)nS@%`W@$37Oa@*%*TR@,1Hr*f@%Dc#[@",
  "&>gW@%De$h@$^O@8(]P@D)_S@,1Lscy (x@LDwSof sub@071XQ@&-yVadded@.#>ZQa@%+ZQ@2zV@%BM_Tfil@3:8nY",
  "@1=_b@#'|o@0G2_8R@?QO@(.]c@Dz#pinfer @%$9eU@$6FWT@<DuS@Ea#[@&oS@E_$a@H#Od@(=5UU@C>lR@'&P]is@",
  "$8yRav@$JrQbu@%-bQon@')WT@GQS@)bWw@%BmR a@I$YP@#D*tS@0:-]U@#[S@*^Vw@&McParly@$7!TU@'0RT@(.>U",
  "S@%&>tRand@#DeP@xQ@>-]Ubeyo@'9QR@#YX@0eX@0VS@0dS@+;+c$R@L4tS@)/#XX(@#86bR@,85VU)@N$yW@%jT@A9",
  "qXd@/!+iR@>QS(@&EyPir x@#DbS@'Dr`h@&<.aRblank or@'<;oS@7xU@)*(ySb@%AJyS. @)SOing@)3/]Qurns@#",
  "#mQ o@/;TX@%A|P@'H[|h@wPvQK@MJjP@5LzS@,2nS@#;zP@$4LtV i@<aO@$FNcQ@$>/YR@;M`P@7&fT@7UO@&gO on",
  "@A7vU(@#<BRQor log)@H3qR@'9h(V@4mP@%#YR@$(-U%h@%;s&k@>&V)m@#;;SQ@,23v#R@*?V%O@(+5W(P@>!x5n@=",
  "Njg@#%-[;m@$KcQ@,20V,_@3<>x%4_@.>OR@.>ke@$5>s#`@'CdQ@$5>va@lS@*8>tg@.5Z2]@.*ov3d@.*q%l@%rR@.",
  "*s$g@%rP@)9HQi@%rYz@:Bd']@,Ma)|@$3(ZLm@)(mv,z)@$1E`R@)(r%[@$/KQY@,Cl3]@$2!y8Z@,Cnj@9XT@#-+]$",
  "j@,Cut3d@,CwIP@'B)ir@JXS@(G8X$p@$2#U0^urface@$7-s$]-@(D4qR@24?lS@VQ2@#',OW-@2E$RT@)7LiW@6-mT",
  "@1I_V@$7-gQ@$98gT@2E%gQ@#yO@#jd@+JYQ@#hQ@$7,ZS@$9BTS@2KWSx, y, z@>,Te@)KLXQ@'ClR@#eQ@11h$W@%",
  "yR@.(9cb@%eQ@#&*cT@$Ck*b@+Jd&O@+IoR@+&.Z$k@+I[#-`@#I?^.c@+<k[@$2B^AV@*<ok@$2>fAV@0;&`W@F0iZ@",
  "$2;n<[@*6zT@*7kg@+;0X7Xz@+;0X&SZ@+;0X#:l@$(f[@$)^m@+;0X6z@$)^#?_@D;na@.*_Z@$)^6x@$$q#:rz@$$q",
  "h@>9pMt@NS^@N|g@F>m,y@-Xd@.Yh@#8:S#?b@#?pW@#8:S6`@$N/k&_@$1AnX@LhR@$N/pa@#8?h2|@$N;S'l@$EsX@",
  "$Fhk@#8FQ(HW@(Hi`@#8FQ#'V@)N^a@*!Zs@#8FQ;u@<bf@=dg@+IKv#Ae@#ArY@+IKv7`@''(l$g@3%?Y&x@$<tX@%(",
  ")`Yf@CkP@AXP@9LXR@,#STscala@':zR@A:aQformance@*'MkR@+N[Sa@%NMoT@$UR@,0^Qi.e.@$NHXTnot@$M2]V)",
  "@)/hP@<8YR@<rP@%31OQ@:aO@$KBfRand use its@$KCQRhann@#3:`Y@.>'W3b@/!*_*O@%)N^V@&J[_@,'7mSize@",
  "&C&|&Y@+Drb@1cQ@++?sS@1be@$1SUn@-*1tT@)5#oZ@)$5XR@%,+`eS@)gQ@)rR@(*m$[diame@&EyT@)22RQ)@(d#m",
  "@,FgS@&:?nT@$L>rR@116qQ@/H1QT@#2GUR@(10|[@1)CR%w@)^#m@#8|P@1)AaQ@B3WT@%J.nR@/zW@*HTR@0UY@2N!",
  "VU@0TP@=JeR@'5EOR@*^[@37SQ@/F)Zq@2/R%O@'8+QW@3&As]@3$3`V@3$JoX@3$JU^@3%![W@3$No]@,;D|T@AdZ@3",
  "#7gV@3KPX@/F-]Z@%EyZ@%Fpm@.5g(Ha@+55n#'e@)Nbc@*!au@.5m<Q@+55wr@G(b_@=_y@*56_j@F-Q$g@*56_j@%^",
  "$g@*56_j@%^$e@.s_@);'Vi@#*%_Y@??z7P@,/)g#>w@$(dY@$)Yk@,/)c$#f@$#wY@$$me@??rMz@??pp@??n-R@??l"]

def schemaBlock13 : List String := [
  "v@36#z(a@nR@$6P$Y@%?+lS@I!jP@30Jl]@2LwTf@#.HXT@#FLXQ@#)K[Q@/+$TV@'fP@M3aT@)2FuX@*0BY]@&)<xUi",
  "s on@#yTup@#s^towar@'E-u[scre@->gY@)kO@$CxQ@49[#?c@49Y6l@,:7zR@$B]j@.>*ZR@7d$e@4<wq@%d$fmax@",
  ",<jS@&%d&[a@1)l^@%45yT@#9K_R@#H8qY@%>Edc@*5>o]M@(sV@1DDh*|@4C`#&z@&'Jw`@Bs)_Mo@'L9oQ@&$zS@(G",
  "NqW@&->lU@%;2oS@(D,dU@(N'yQ@%D4oY@#$M[T@*/DqZ@#!$qQ@,!L]Q@%?5nQ@$oQ@#&<bR@,3ORa@0.&iQ@)E!pR@",
  "(D9^Q@(ED]Q@%D5vU at@0-8aZ@(H;WW@5#d%u@39DS%4w@)LSX@)Luk@82a(H_@82_#'l@82]t@82Z<^@82Xy@3C3P&",
  "m@,4'd%s@*tZ@+ke@3C6v&o@,4'`%s@*v]@+oe@1!Hj#d@36!bW@#4IUf@1!Hjl@$=V&ea-axi@-KDyeAK@0NGZ&ib@'",
  "biB@2B[P@361z'_@#5,i2^@#B-s$j@#B,g#b@#B)oq@)_Qt@/N1tQha@)('|Xt@-,;[Qon@+9eY@#ZQ@#B#n*T@1]U@#",
  "AJl'z@#56Z$p@+A:PQb@#56S)j@#'aP@#A4l#*ea,b)@%,K_$U@,2wQ@#2Lcn@*L<bXin@%nP@#5?w3]@1!;p9U@#A4m",
  "%e@<tP@#5?wIP@#=-ew@JZP@5.?]<f@$<Q%p@#?4sIQ@#JAiUa`, `b@$/5St@#?5e;t@$)|P@#?5k,_@#?(g)d@39Fw",
  "*U@)8aX@)9Uk@;G^Mz@NW[@#!Vk@;Gj-R@0F#mu@&NW_@;Gv#Ne@#NvV@;HO'LT@)L`W@)MZq@;H[(H_@(Ho_@;Hb#'^",
  "@)Nj`@*!my@;Hn<O@<he@=pk@;Hz*p@*zY@+wk@;IY*r@+O[@+|e@+5#gR@;I]#`geo@;IYfgeo@$!Cb2y@37BX)e@;?",
  "b$q@;?T#t@;=l$e@;8Q(X@38!x0v@#>GrR@CTT@BWR@3&$T)p@1%LqZ@3&$gX@;M|)dgeo@1%LuM|or@:.qS@#1yU@#M",
  "BT%X@&TSor@#5rW@$#6U,j@1%Mp.n@#=VT@;KV9O@*82R$h@384Y2u@*8GvU@4&m^centroid @$G6aS@#iRgive@(HH",
  "XR@385m#S@1&7v'x@<7wtgeo@<7tJPgeo@<7q<f@%0o&v@<8wI]@*L%ZT@UP@JZP@<9Z<qgeo@%1,R,|@)GPU@)Goh@<",
  ")vMz@NTX@#!Ph@<)p-R@-Y_@.[h@<)j+_@1-UPr@)&;zU@<)v%|@#]Q@&hQ@#`[north@(&FQX@(I2XRmap@*JIZc@<+",
  "h#?o@$#qS@<+e=l@<$]'(W@)GOT@)Gtn@<$V(H_@(Hl[@<$S#'^@)Nd]@*!dv@<#z<O@<eb@=jh@<#t*p@*wV@+qh@<#",
  "n*r@*yX@+uf@/>-a#_@<!xR@/>-a`@lS@<#h2y@$J+Z-bgl@$=!g%l@%rR@$J+_Jq@$=Dz,r@/>7g$r@$I8j#3T@/??S",
  "8X@4,`p@*NAl$g@;<Pv@0K*t6g@;<O'^@;6O)Ol@66=RDs@$H2m#3Zgl@$H2o%>z@/C+ha@+Ju[@=9^z@#L#s$'T@$(f",
  "T@$)^m@#L#w$#m@$#yT@$$qg@D#qM|@/=G`j@.5Te@D#o,o@/=G`p@.&kZ@D#m(Z@CGO#?c@0N7`C]@CC^#'t@C5Y%9P",
  "@1%Btf@'4Zc@C5W(HV@1%Bz#'f@)Nbc@*!au@C5T<P@1%CVs@=+r]@C5R*h@*vT@+og@C5P*s@*xV@+se@245o#d@=I^",
  "Q@245oe@pW@.06ufe@+DHd$^@=MfT@2/JeV'@'E?XQ@;HSQ@?rO@24*V#[@$ZX@$RU@+DHxY@=,YR@,%HwX@>MOR@'4Q",
  "Q@#m^@+DJ]U@,DDzSer@*,rQ@)lO@*,rQ''@'M=mZ@*]O&,K@3NMrQ@2jh@3NHwS@0EU$g@#K,t5V@#0;a,p@#0&v%U@",
  "BDn)d@24$e#<S@#<_W@#0%s9P@6%9m$i@#/>S(s@446x6l@#/>V*g@C'_(|@44=m8X@24,U5W@'8gp@+F)`2g@#/Ec6W",
  "@#/EV<p@458z,b@>Mgq@24/ze@'IQc@:CjMo@2+AXo@'-vi@:Cr,n@2+AXu@&Fc_@#.f|low@0nP@'Cla@%>f%TFlag ",
  "@,H=vRall@,#LUR@1'vQ@')LmR@&pQ@:5uX@']V@#/FPR@7LX(z@88u`@1?sU@))SPr@+B'wR, @,!+bV@&4:xR@(=&k",
  "S@$JaR@(-0UU@*=gQno@+B*`T@B%rT@'*0OQin@,+A|Wview@#8EvU@$%QT@%WO@+H4dRzer@+FKoQ@;#e#?y@$&nV@;",
  "#i6f@:MS#2u@)*vo@7>zZ@+MB||@(=4YY@$_O@$4^^@,PX@+1tP@)$7Z[@;!nU@%LRQ@7=Ur@4/FTk@$!Og@7=^(HU@(",
  "Ho_@7=b#'^@)Nj`@*!my@7=j<O@<he@=pk@6(1p&x@']a@(Yk@6(2W&z@'_c@(^e@7#G`#c@3.wQ@7#Gdd@oV@&'0p<d",
  "@'6Dx%i@,'YT@#,!W]@*<_Vr@+2OP@7$!b)X@$3Kz'Upola@#3jP@$3Kx4[@7$7c)o@#?OV@&&1l#?r@7$Hc8[@$3LQ&",
  "^@7$LO6k@#F5W3b@7$N^/x@#*bV@7$NbDR@#,5sMs@8&]Ur`,@7%DQR@8&]s@7%Iz##v@$FpV@8:e-U@7%?jd@(;Rb@8",
  ":cMo@7%?rn@'JXh@8:a,n@7%?zt@':r^@#%/^(Z@$48k#HT@7%NU6q@$48j'6f@7*>wj@'M^f@<3t(HU@7*?R#'j@)Nh",
  "f@*!jx@<3q<O@7*?_w@6Mv`@#&#f*g@7*?gl@42|b@#&#l*g@7*?on@yV@#G6u#g@#pR@<;Qj@#G7R3O@<1j0m@#G1PH",
  "Z@<Bs)|@#G1R#6O@#6XQ@#G1W<j@<uQ@<8T#*^@#GEj8S@<8V$/e@#H5R,^@<8Xv@#E#`h@(1g]@<8]Mt@#?Fer@'Jgc",
  "@<8a,s@#?Fox@';UX@<8e(Z@<0r#?g@#?Fy'3`@)+rX@),nr@;E|(Hd@#?G[#'n@)Nla@*!pz@;FT<T@#?Gk|@6-xZ@;",
  "FX*l@#?Gup@3AR]@;F]*l@#?HRr@.1(QT@;F]#`@#nP@;FZe@oO@#*2^<c@#*&Y'Usmith@#*&Y4be@(A/hRima@0K;S",
  "Q@;2d)d@<kO@#*&[#8sima@(J4iY@'7]&V@+B:OS@'>My_ta,@*=SW@31xUimpedanc@0IH^Vreal=1,@#wO=0@(*ZR@",
  "'?-OX@'M.y]Ima@;]O@;EQ(vsmi@68=q8Y@#*.S&]@<sO@;DzIQe@5DMyZ@;<Z&We@'AEna@#Fp$WRe@5E!|R@8Gnusm",
  "i@68A_8T@;>c%e@3:H_W@$+EUR@'6dP@;>c|@#YO@$+FnSmith@;>cj@sP@;>c#%geal`, `imag@#A,|<qsmi@69Al,",
  "^@;*Yq@)7sR@):Yh@;*UMz@NVZ@#!Tj@;*Q-R@-[a@.`j@#)Ad#Nl@#NuU@#)Ad'LT@)L^V@)MWp@;Jd(H_@(Hn^@;Jb",
  "#'^@)Nh_@*!jx@;J^<O@<gd@=nj@;JY*p@*yX@+uj@;JU*r@*|Z@+yet@,$?v#S@#qP@;JU[@#pR@;JWe@qQ@&*%]'S@",
  ".J3QR@MZP@7,jR`@7G`P@9-WR@.LXQ@:FoP@&#NbQ@5%iR@%3^Pall@*M>ZXy nee@;(hS@1%wT@(.qU@&(nS@6K^R@;",
  "0oQI@.J7wRwo@;CTV@4?mU@07?eU@)HHbXmatch@+9KUTi>.sum@3+[YK@&**R&i@,W'`BK&,K@$B5_Y@,W+lC@<;uBW",
  "@ByQ@&*=R4oc@<;x)j@<nQ@&*=Z#*h,c@&(#Y%j,c@&*=_3^@#APQ@<4W<j@<uQ@%<'hJP@J[Q@<,i;m@&2tR@<,kX@'",
  "FwS@<,m|@#[Q@+)mR@^Q@<,qj@uR@<,so@,**Q'T@/#/tSwo@4F_P@'4R_@:HyT@/1rP@)ND]S@'1cZ@63UP@'2_Q@#(",
  "rQ@79[R@#3uQbu@80ByU@*J=XQ@*<gU@%$oT@*DAYSes. 0 (@'$nT@+GpR@$KF`Q@$|X@,eXm@<7X&c@%!Y%t@&+#gI",
  "d,@#)fP@<7W<n@#AlQ@<7Y-U@*%wT@*(bj@<7^Mz@NX]@#!Xl@<7b-R@-^c@.dl@<7f#Nl@#NwW@<7h'LT@)LbX@)M^r",
  "@<7l(H_@(Hp`@<7n#'^@)Nla@*!pz@<7r<O@<if@=rl@<7v*p@*|Z@+yl@<7z*r@+P]@,P_lack@4;&[#eslack aler",
  "ts b@++(|Tup@39YPcoming@4:MsS@#QP@5/#lQ. Onc@7BH^Q@89eP@6-sQet up in@(HHPRi@(D0tQ@51>[Q@4;&a",
  "k@$[O@4;&a]nam@7BIkQhoos@(I7yQt@5/'Wh@(I6j_QKSLAC\"_WEBHOO\"QK@4:MvY@4:Lb%]@&vU@%QlA@,Ok url",
  "@(1,yTse@(NCwQf@&NRQup by@0NjU@-K#aS@&L]Rapi@5/.qU@$YPing/@$UQs'>@/84zR@-#7mT</a>@/C6YW@%UQU",
  "r@*CKm`@`P@<HbUla@86.rQ@*ojt@.;MxQAlert D@4;$vU N@+94^U`@#tO` to@3pUa@(nQ@0bU@<Iw[@7fV@6fT@7",
  "W_nowflak@(INiQ@7]z@(J!xE_ac@1+?t#q@%nO@HuR @$XQ@#$_P@504bUyou find this: [@#TTdocs@52?pY@lS",
  ".com/en/user-guide/admin-@$^Q-@&F<lT)@50+bW@'ZQ&,Kwareho@+*?`c@'h#Z@052cR@$XS@9LUTwant@50:xS",
  "@IfOy@4<4vU@,PR@FbU@#(gW@&PS&,Kr@)'-tc@&X#Z@9.tQrol@&RZ@%4BZRhen@53JdS@/h^R@)'*kQ@#+o[@,OR@#",
  ")W_@(J,^r@#)XZ@#*O_@0%>hS@:(4s#R@9$|&afill@.N>`T@8B_P@(^S@1&AWV@1B$WWil@7M%ORis 1@/B(rX@:0jS",
  "@#!sPly@1?ElQ. Apply@2BtP@(2JUQ@$pP@*KjUn@/E+dT@+;9OSre@$?ZSopenings@)%;ZT@BQQ@4B:b]@<BRRs@6",
  "'DU%m@4K7|Qs/h@*5yPetrahedron@-%GxR@,iR@11URa@4!&jUiso-@#>MeROften@=-sW@(,dQcaps o@*9GeT@*)g",
  "R@(I.jS@()%UV@&9rQ@:9QU@)Mw[@#=vX@5VU@5vh@)IBl|@5v(O0.15@5yXonly 15%@3>|T@2'9QQvery @-RPof@/",
  "cP@+0FsU@6r^@%8UR@6zW@6lgstronger@8&aTor@.;&cUu@$KYPhav@9fU@=0SQareas (@-%;`U@)&]P@2':YY@7w*",
  "d@)I?V`Spl@.?:xQ@?&t#Y@#gO@)`[Q@hP@)8'y,Qagon@#(:hZ@)8'n[@4M,]R@%%v$e@)8+j|@3RO@)8'vX@)4R%a@",
  "%sX@%>$n,lplo@2IHrCz@6H!d:qSplo@2I:Z8|@9VO@4!!o<W@:5[pplo@2H>h8R@(cOowerhal@55qa@(f%o@5#ESZ@",
  "8L1oU@5*QT@5#Ehm@(fO@(WS@(iQupp@(i&n@8L7eT@(i#O@(WT@#+3o&k@1JVR@%7fZ@#+4U%f@<IR^@<#q;nplo@2G",
  "HQ,`@.NHd&Z@$KtT@(LMyQ@+64cQ@#7b[@)K>RU@#KMrRsplo@2-/`S@#L/yVa@jQ@+=DQY@&'jPN @)OO@#AaQ@9!1V",
  "S@-&sT@:'hQ@)NAsU@&NvU@'5mR@$,UQ@.AIPS@D_V@0WP@$3SP@#-aV@&=fQ@#4bV@#RT@,DgQ@&sU@&^P@%6>wSo@7",
  "#CcRx-@$7PS@cSy@cO@+BaY@/!9XR@(,AY2X@>q&l@+7#RQ@>q#|@)OO@>q'O@/!8lT@%;Ab2U@=1Sk@(0VQ@(2[a@'J",
  "`U@<$Rz@+F1XkA@/)/k$k@'Dv]@&;q#sabe@9!pV@$IjV@=ZP@5$=uj@)#1_,|@)!MU3f@%94lc@5#?yY@+4qQ@%92bQ",
  "@$+wX@'nP@%8!P&g@5%=sW@)$KxS@:.lU@-,NmY@+>GxSals@)VVcon@/BNqS@%$wP@#&xRgrid@#7QT@.%FcR@#<lW@",
  ">5gb@#%zW@#%aU@#&Wc@>4wMt@NOY@Nsc@>4e,y@-T`@.Qc@#G%i#Fs@#F|T@#G%`'3Q@)+`U@),Ri@=?t(HX@(Hg]@=",
  "?k#'W@)NY^@*!Tq@=?X;v@<`c@=`c@%!,w&y@'TW@'vc@%!,g&|@'VY@'z_ql@+2+x#RS\\L@+2+pV@<#SR@#B#iQtur",
  "n@+2%rT@&C)RRS\\L@5K<eR@)*HbR@$0vP@5nOnQ@4/vT@80IbS@+2,Q'j@),9h_@+2*f$S@=,XV@o_@)71d[@s^@*?K",
  "cV@$Y_@<(lY@01=Z#S@),:SQ@,lQ@01Cup@+&!mS@%/eVs.@5K?SV@BWU@%gQ@5VV@4`R@5Oa@)QT@=4k(z@)85b>h@=",
  "gP@=&z#Z@HeV@IX_tart@)75d#O@&&'W&j@.76VZ@&7T]@hSreamtub@4>ZX@)**Z&b@$K]U@(Z#a@)8*l_@(Z&V@7/,",
  "T_@(Z|@)8'`X@6YR@6u`ep@9*2u#S@6Mu&`@9*)s#esl@.90nZ@9*)s*Q@:(PP@8.TP@9*)r#q@+3IeR@9*)n'g@'sQ@",
  "6=e_@9*)m&o@&$$nS@'kQ@=>^S@005jS@)7xQ@9**Xj@,.0uV@9**T%i@%yQ@<CyQ@9**P;d@%N*gd@Jt#k@(?VS@DuU",
  "step,@?xS@/yS@-ATSprogra@,FMeU@)7/SZ@-<FVR@LsO@#-DkQ@.=E^`@1'8op@%MIq%utep @6#B`U@;1TS@-:(af",
  "@#>qWep@#>pc@#AWR@>.t#_@#lT@>.y_@mS@0J'd._@78EsMc@#/hT@+11R4l@78Ey/bdivergenc@*G9[R@?Ee)]@KZ",
  "S@)/HzDWtubex`,@WPy@WRz@WRu@WRv@WRw`,@78GnR@+5PP@MqS@)G7e'x@%4X#W@?FW2S@#0oS@+/8p?p@#';Tk@0A",
  "b%p@-#MyV@,IUT@#/mT@-G2xS@13[P@FmS@#':dh@0ICX#1Z@78EX&]@*$vP@'#XP@7DrQ@&0cR@)9oU@)?'j[1@/7Br",
  "Svoids@JqOmax@7A7YQ@&DiPub@28#hSou@,.<YQt adjac@JTO@)<cZ@7Mw]@#'DwTr@ALqZ@$2u[@)<rP@#Di$e@+I",
  "y$S@.I:RY@'!5[j@#/&Zu@(4vQ@$SW@#/%mZa@/>*dY@,,0eW@.^S@&,SR@/7FRQ@#8zR@K]P@#:vQ@E9WR@A-P_@*-w",
  "&y@78<z#CV@/,y^@B!O2X@#0m&i@8Ru@78;p7n@(OW@0J2U2|@+4bU@+5Sh@7D^(HX@(Hf[@7D]#'W@)NW]@*!Qp@7DZ",
  ";v@<_b@=^h@IIuMt@NT_@#!Ph@IJR,y@-Ye@.[_@)L(yQ@50s#_@#jR@50q_@kQ@20L_?Z@/?3Z$h@&!+k$qa@20L`+d",
  "@#$wR@20Lb#6c@*,?d1l@(-w&f@?|Q@21/Q'b@$$qR@21/SDV@DcR@21/UKk@#C9yR@$0;TS@*#NbT@21/Q1Z@21+^%`",
  "@*,Kk%o@*$*gV@'CoP@)N.oQ@/CI`]by@0&A_Qngl@#%)vW@%N]U@*,LyUs at 3@*,LvR@57RX@*,LYV@212R?r@21*",
  "W8n@21&kKn@)9pS@):`f@*GmMt@NR]@Nyf@*Gi,y@-Wc@.Wf@21&w#5^@#5jX@21&y#&k@$:lY@$;bl@7/s(HX@(Hj`@",
  "7/w#'W@)N`a@*!^t@70R;v@<cf@=f`@1E8S#c@1E8Pf@1E7z.f@-+`'qz @#:*uT@#mO@J2l*Z@*p[@J2s*W@*m[@J2z",
  "(r@1yl@-%m-s@1E5T4s@51;a'w@(kW@7MJc#P@<`S@3C3|.Xde@1A3v`@-#O%x@)D7gR@-!COT@D^Wset `@'aU@+IgQ",
  "falseQK@,4%WUx.sh@&8<qS@*7<fQ@15wQ@qQy@q^@&00aS wir@0='pQ@10/Q]H@*]U@#;;j,o@1E<v#)T@JEc(p@1E",
  "2R9^@00$Z$i@,+/TEs@(|Q@%Mce@,3|&P@&vV@,:!PQ@aU@&!u#d@)-*kW@&!R$U1], [0.5, 0.2@&!QQ1]]`@-FMnV",
  "higher/@&<WP@$OQ@.CJ|U@20JbQ@&XW@$+0fR@+GPQ@&G]Qd@16-RS@330zS@2eU@&!gZ@)wV@&!i#T'min', 'max'",
  ", 'extremes'@%hO'@1+=bQ'@J+u[@iU@2n]@%N[S@K!m>W@)H<|d@*7Y&V@&)uR@/7aRlu@#8[Q@(`P@3HDsT@',rU@",
  "/?#kZ`z@#3ESY@)HAj%w@*FdR@239zr@,+HR>R@)GGc$/U@1EKRe@1HEcS@+<_y@9A4Y&X@&;aX@#=9uU@1K/|T@#D8d",
  "u@,kW@-+'WV@.MaP@(MmP@#DEQR@#p_@$iS@&)oS@1:z]@?2lS@#DMV&w@*nU@#DLyd@&EzX @#E4VwO@0AbQther ha",
  "nd@#E4i$i@+aS@)>s$e@$2Np`@+JJTQ@)>msodd@YReven@/FMyZ@1KCvS@'XP@,r^ 3-D s@#A5`S@-RV@#WY@-OU`a",
  "ll@&=xP@-SV rest of@yS@%:ST@#E*yZThe check@/?xS@-18uR1 or 2)@'*Gw^raw@HlW@618WS@'2eQ@1fRU@*5",
  "PQ@'8gP@*eU@.H6SQpital `A`, `B`, `C`, `D@%4ZQE@&?hP@,=IfR@#'KeTdu@;0[Q@/)`U@#5EUQ@$|S@=]Wand",
  "@,4;[T@2vP@)mQ@%SOinter@:JOZ@*>+OU@#E-r%nHides/@MxQs@AeT@DRs@&(tY@,:cY@LPQ@Lme@5)o(HY@1F;Y#'",
  "d@)NQZ@)Num@5)Y;w@1F;Pq@3,nZ@=Ry@'=5zj@$RXX@#Fj$f@'=5tj@%lXY@%l$f@*,6Yj@%lXZ@%l$d@/e_@3?/te@",
  "-[[@+I]|@*Kb$_@'8eQ@8'Alk@3B3T'j@$<*sS@(3l&W@,|W@*)%mV@6L-OV@:NBUY@&G$e`@.&:PS@(cW@1p$e@%tV@",
  "2Oe@%yS@'+YS@#ZS@,!It&Q@8'Lim@(az@$BXS@2:&XR@CYg@*J.WS@Fo$e@$!#t%o@6b#`@(Iga@#:QP@3AMQ-vus@)"]

def schemaBlock14 : List String := [
  "DlP@5F4iR@4Q%e@*I#oU@+=pQ@&[OQK@*40SW@6-b`@*JNcZ@#[O@4(B[W@/0VP@#vQsca@8M#m[U@(sU@8(Cd'w@#4Q",
  "[@#4vmY@#4v1Sy@#4v6]@6bZ@#4v;yY@#4vnZ@#4v1Sz@#4v6]@6bZ@#4v;yZ@#4vf@G,hMu@1K(yn@6Eoc@G,f,i@1K",
  "(stTa@3CmR@#93iu@#VO@76<XZquick@,;9cXra@-C(_Sn a tabula@#.;sSQnQnSinc@1JBsQs s@-:3kQ@$:([Q@#",
  "aS@N$WQ@:>?_R@#72qS@,FKaQrom scrat@,)eQa@+-3_Rs@76<|RC@#TRm@78HsQ@cV@#MJdRth @CbP@+B|Q@0H-RU",
  "@#6LsR@#_]@0(iP@#QY@>`S. W@*=;RT@|O.@$YRblock yo@:?CbQ@1:<[R@#6KhVt@'6.[R@EFQS@0N<gS@794yQna",
  "@1FNRS@$'MpV@#6A_Q@*OO??? note@79*cRWe'r@,.*vR@*NDqQ@/,hQ@5NaP@#CQS@8#oQ@#7:iR@#7'_Tit@M>sTt",
  "o@(,dQ@,YR@1?5^R@,K/oQ@#:'UQnd incorpo@1#,XQ@6fO@(..WXmat@,JwPreact@$wQ@46pR[@,H>OV\x7d@3ePi",
  "ng@$(/PTwww.@#eR-@#eO-@*_Rm/docs/guides/@#lU-and-@#nR)@(uO###@*N2gR@#9?SV@&gP@#9?RWtable-@hO",
  "@6CAaQql:@7:*zV@,-2xQ@774|W@$9aQ_name,@ja@7:#[Rat@pYcli_@0G)qQ@iYstage@#w_@$(4cQ@j_@#VParchi",
  "ve@79MwUFROM visivo_@%^QQn@NqP@'rWpre@77AwQ@lO@1K'PQodel@1K%mV@`O@77;aQ@1zQ@77>tU@(TV:@]W@s]",
  "@(^T@yT@cU:varchar@795jU@(vT:@[V@+dU@)QS:@ZU@7:-`U@)XU:@]W@#gZ@)bR@#kR@_S@%bXprop@'sVtype:@$",
  "?:yR@fTx:@(sQ@1&'RR@'[U@77CyUy@v[name)Qn@6iP@$)5[Xatest-@xQs@,PP@#:![Q@4MiPref(@,kY@+|b-@<SQ",
  ": Q@+!GRR Name@79>Z]@,ka@#c_@AwPd At@#ig@'zT@#ogJson@#igjs@-pT@#cVCLI V@.cQ@#b^@/U^@#aVStage",
  "@'|d@/r]@#_V@$(I|Q@#ad@0b_@#cw@8sZ```Qn@##UQar@0GGmQ@09QR[@CV`framework@Bmr@79?c%Zr@:!OQ@$iX",
  "A@1K-wW@NSO@$$7jR@#:?lU@//OQDa@0E<iS@1KIdS@62^P@3HDQR@#$bTK,@9JKv$]@#0aU@aP,@1$FPV@'dZ@$!+jR",
  "di@-+uP@#;'^T@#!+]R@#6mS`@/yP@56YTumn`.@fT@1._S@)1dX@6E-WU@.RP@#_S@#TR@tQna@)S[@#)Yd@#uX@79E",
  "l^@#4|T@&#fU@'xO@$!RZ@2JwZ@)OO@(|T@)kVa@1K9yQ@#7Y[@$,uS@&*P%Y@$>FtS@$3nT@,J)an@)SU@,$$yh@$+!",
  "kT@'n%m@,J<b#j@(j^@$(6W`@*/?TT@(j#r@$B_$h@&6y`@5M1^5Y@#J/])Y@,$Nmm@CnT@D__@./uZ@Dfydtick@->4",
  "Y&[range [@4/BaZ]@,N<]T@hX -@28VQ@8'WRhich@/,G`Tsom@0I&cV@2=JsR@$4_Vomit@#zR@-?cQ@1?2dUby pa",
  "@;JfPQ@&lO@2'r^@-B1XS@+$3d&W@#9/lXop@H5OR@;1eP@=!RP@$#>WR@nQ@28_R@#9D[S@*?K[Q@-6aP@7$iP@2$gX",
  "@+$2|-X@#:(_1b@7L_Q@GqQ@;0OW@;-_R@GjV@72XSas Q@/2SU@FmX@*H4x]@##|[@#$s`l@-59s#Qfli@:Gf#n@<,g",
  "|@#&1nn@2N)eR@$ADgTb@;0kQ@%<xPolv@,N,fQf@$G>VQ@1L+]R@=6q[Flip@2'j$h@*=1_[@#$+eS@/+-^`t@,eO.f",
  "lip`@-E%cW@.LNrXt@NHhV@.(yV@0HQR@N+YS@#uR@,:ne@$kW@jP@.5rR@$YV@$CAtWto@0E:`Q@$T#R@.7yS@$Ud@,",
  ")TP@$Xjh@&_#Ylef@(fk@$Uf@41%wS@$Vdri@-HIgZ@;%/[Z@,Bp&binner@,BlZ@4GjY@,BTX@=ZR@=vd@$+4R#O@=v",
  "'fpack@:Kx[@=r#wsquarif@1(AOSi@$C2`Q@64[P@-FIgSsl@ZY-@lUdice-@qR@,?gZd3@3!2wS@(SP@02mP@1)]S@",
  "//DlR@#.dS@08Vd@#!8sS#@#tQ-@7uP@1OX@)VP@6i'a,@,bS@-?+R&V1@#FwU@$#tP@1[U`@4PQ`@,K?pV@?:UW@.|m",
  "/blob/v3.1.1/README.md#@$]R_@5HuP@###tV@-G$RX@-A:pR@-?<lV@%8TR@1J5nT@/.0]S@04tQ@vP@>HuS@<:bS",
  "a@+/>TQ@(Zhon@-K6sW@3,ab@$t_ (tall or wide)@8;gRim@$N|W@%hO;@#<?qXa@&yUw@7>LyQ@#!KeQ to@#>'P",
  "Qe a mix@1F*tR@$oUw@=%`Qdth:@+$;_Q@#sPi@#N8iS2:1 or 1:2@&LEVW@-[V, un@1?uP3@#+VQ@0'8mSGolden",
  " R@#xP.e. 1.618034,@#<6|R@.3?QR1@%?kQr@;jO@5GdRin@<nS@9#]P@22aY@5VW@KU]@%2Xa@%LzR@''rwhe@9%p",
  "Q@*=EfQ@,fQmos@+lOort@-?HWR@&$SQ@$gP@0(cPin a@#=FxR@&/WQ@$)qTthink@''qS@K.vR@%7lR@-+-XS@'::a",
  "Ron@#>AWT@:AzXTotal Reven@$8vPWeek@##4vU@1F5wS@$.8VT@7>D|Ris metric@46cQ@-8AZQ@9)tQ@#LhP@&(O",
  "Q@9&qTadd i@J!eP@0(2xQ@+$G`Qa@#JTPwant@-,hQis e@4HVQly@5!iPful@440QQ@#XR@7<DkUjoin dis@,)%bQ",
  "@/*`P@.3KjXM@6)qQ@%XR@&kQ@&*PRfor `@(RRPer@(SQ@/KkQ@#QT@$;4UQ@#W^per Da@,K+_R@%,bQ@0L5]R@8M>",
  "TQ@+uP@*=IlV@7<:yR@1M)cQxtr@;'ESQ@0M?gS@443pQQn@7?7|Qapproac@%63PRfew key advantage@'2bP* **",
  "Modularity**:@<>gR@:NOPpea@&.lP@,%:lR@+T`ne@$pO* **S@,zPS@,GCQSTruth@#|Ysingularl@2J;aQed o@",
  "%7|Q@.QV@#vQTes@$|O**:@;FiV@$RO@#vSt@tQ@<6xQim@?2]P@:!G|W@&$$vSsser@0JcQb@/(&dTonship@'3hUex",
  "@-FcRse@%hT@A+ZPie. r@,iQ= 3@4IoP@+uRwee@6XO2022-09-19)QnQnSometim@1EEQW@:!IVS@'9cR@#7DRV@98",
  "zR@-=HfQ@8zS@5|Q@55uV@#u]know@1f] by @&BqREx@$HLiQ`@:eT@2J7[Scohort_@(3AgW@(QOplit o@A1[Rin@",
  "1A)QW@%uZ@8yV@1UP@+vT@:!IsY@4qQ@$-E`R@&fR@'E|T@*mTvis@1G(pQ@'ElP@?UQ@#?$XRs@##FdRfo@7=+]Qing",
  "@1A,VXup@*YW@BVQ@BbO@/--WQ@&8WPyp@=:eV@55RPighly@-8>bS@&:SPSe@#OR@($fP@'9]P@'9[X@#?*bR@'3f]c",
  "rypto ohlc@'3bV@&LRRsql: 'SELECT * finance_data_atlas.FINANCE.CMCCD2019@:!KbQ@7<0lWremote-@$",
  "-BZS@'+WR@-RQ: query( QKC@%ZO@+,-VQy@'!]Q @',]Q@'0cX@'0aP@&XT  x@#lSdate_trunc('@+'#VQQKDate",
  "QK)::date@'2fS@$SR  close@#fSmax_by(Q@$:SP@%IsQ@#eP@#UThigh@#TV@#QT@tUlow@sTin@s`ope@'zTmin@",
  "$rm@,03bT@'6mUline@7=-mWcolor: 'green@+^Q @-*4pU@#_ored@#]S@-AL]Q'x@aS@-AM`Q'y@aQfilter@:#+t",
  "T@&sP@&`R >= '2015@>'SP'@&nQ@vR@-mdin ('Bitcoin (btc)', 'Ethereum (eth@aODoge@sPdoge)'@(xS@$",
  "XUM@30pQ@$QQ= 'Price, USD' @7=0bl@'-U$Y@#=FpQ@%?sl@#Brdtru@#/x[**NOT A CONFIGURATION**@+%$VX",
  "us@#9nTcli@#!-PX@$)rQ@=OP@3'bTre-r@8A$SWC@&^Q@-$3SR@)Va@jO@(AjPdel ref@>rP@#?ISR@$VP@4?KSQbu",
  "i@#?L]Q@'1W$]@#A$XS@k^@7>MqY@q^@-$2vZ@'2tV@#WRK@?YS@$/k#l@M]V@1N4XSpli@2GOP@,YTo@7A'wR@Ma[o@",
  ":#D]S@A1ZSumn or@5TP@-:8OV@MaO@*?7rW@+3C`Q@7<cQ@-/1oQ@+zS@&LVThort O@5&mPrder_b@&L]Y@'!w#wTa",
  "kes a@'8ZR()@%8qP@:SP)@.4(TQence. Order@$$[Q@;'+UQ@=BPR@?2wY@=EkT@3KSSrrect@37fQ@#>0hS@:;[S@",
  "?#OS@#A3uT@yOby@*SQst@='zPts@='XS@86VQas@$D9VRdesc`@)rV@#gPB@(83WRt@0NAWe@)p#n@7=KlU@)rb@#>4",
  "gR@#)fQ@2$8iR t@7'NyS@7'NTVCan@#?kS@(B_U@&%._Tql@(iT@'uVF@'iQ&,Ktes@#%.vZ@'Bof@'r#f@$lO to r",
  "un@7=;nU@$J0kSata. @&/dPs@%JrS@#<cZ@1JoPll@43CjR@>8hRan@'>$oR@#=RR@*;|R@#|O@%FaWs@1BMqQ@'M`T",
  "@)8ZdTr@/)bP@1*8jQ@'ozPlac@3JwR@#LtY@&&jP@+oO@')tP@2dT@$%eQ@83oS@#E|R@$*9zRy@=<tR@1H0hV@4|Vp",
  "rops@40dQ@)%iQ@(0aW@;vQ@+7OP@3+bP@&fS@3bT@(ATPK@$K5|X@'XP@ABRW@bQ@A7QU@(QQx@XSy@XR@'KCvS@^V@",
  "mS@8?rP@ZT@'AZQ@`T@JkS@bP@*EIcU@`P@A'wU@`U@*EfQ@aUo@#fS@?H]Y@dWx@,mSid@'ZS@>EVW@b[@/wQ@gV@>;",
  "WP@aV@+!sQ@bQin@#SS@#&FZR@]Qe@)gT@23ZP@ZP@=<dS@^Q@%JUV@bP@#B<rT@_X@$+%rR@eQ@<<XU@aQ@*A8WT@`V",
  "@'_V@(]V@#$MeT@_T@3)kT@cT@)zZ@<#bV@aQ@#BAuU@aP@;7_S@^Px0@XS@WS@0xV@;+fU@`Q@9<gW@cQ@'BGgS@_W@",
  "^Y@'B1SU@gPy@#SS@*cS@'C=eQ@[Q@$sZ@:2_X@cQ@$sY@'B>^S@^W@$sY&,Kdiscrimin@2GIcR@=%kQK:!Kbar@=TU",
  "BarK,@;DDgT@hW@&9DsRbox@hVoxK,@:F([W@#.vU@:>?gW@)'8`R@nU@(M0bQc@:$6pU@mT@9J!OV@qT@'+8|R@w^@'",
  "$3zScone@qVon@(:^P@,M#QQ@hV@4+FsQ@kQ@%n]@8(Ci[@7>#pW@#*4QT@76EwY@6HIpQ@pT@6<K`S@6/DiU@mZ@6)*",
  "jQ@6%LQR@nT@5G,vT@5</oT@m[glK,@5+C^U@oU@4MA`U@4M>]V@q^2d@sX@(z]@4+NP`@3:)UQ@uT@32GqSimag@hW@",
  "2LJ_Q@2H)mT@kU@2E'OU@29CPU@pU@20<bV@-!=VQ@#BEpU@,D'SRohlc@+$`VhlcK,@,)<aS@,1ZU@,%9jS@+F&PT@m",
  "X@+BBuRpi@%QVPieK,@+'AjR@#AgU@+#HZR@KcR@$3Jc[@kT@&WW@*2=jV@)(+UX@(<=lb@wTgeo@(!<]`@qU@.iV@'B",
  "EvV@'+KfX@&E;^b@wT@9kZ@&:/gY@&'KgY@%<4[c@yT@%:)vQ@%!9o`@uT@$1GjQ@$4$zdK,@$/)|Q@#E3vYK,K@#>Jn",
  "U@#.?W_K,@#+;lT@F2S]@mO@0fZ@:!rU@%7iP@#/eW@aP,Kviolin@jUV@`P,Kvolum@#tVV@`P,Kwaterfal@)SVW@c",
  "S@#,iQertyNa@#dOty@D<vP@$$|T@#C*dZ@3oP@$!g^@DkS@$$i_@*sV@o_@)XT@$%__o@*89fQ@&EIsg@pfg@1NE_Q@",
  "%<Baf@o`@+vR@k^@>VV@n^@;RU@m^@+|Q@%^e@#v`@>_O@h^@<]O@%n_@D`S@#q_@?eS@l^@GRU@+P_@)(2^R@#x]@Ck",
  "P@)f`@(Sd@ARR@)Al`@3^P@%nd@+]j@GfR@/fa@NiU@%bb@CtP@'v`@#'aT@,]e@4^a@6]V@$O]@#(PT@,ie@'ih@0V`",
  "@9iP@'ze@&df@?bR@q_@I^P@#_e@)ye@#)`X@(Oh@seB@faPi@'^`@2DLgR@%=,rh@:tg@la@F_O@$?UVProp@(NCb]@",
  "#CEnQ@$GTP@*%P[@&,uc@$&WR@&-Od@$LQP@%#hW@&/OV@#gV@$Za@/-6YS@(Jvz@%HhQ@&Kb&`@&lR@:0PSl@8GgP@1",
  "J)PT@(HRV@'mR&,K@,3Fd_@2Mz#x@42SVqua@;=fRcub@;<cSs@#N3USex@1IuR@$#HbWelas@;?XTbac@#N2kRboun@",
  "',hS@$bP-@#pSquad@]T@$hO@^Tsin@[Texp@xUircle@lU@$tP@`Tback@]U@$zO@_T@%PQ@#B+hT@%QO@^T@%RP@_T",
  "sin@]Uexp@|V@$#KwQ@nT@%VQ@aT@%WO@^U@%XP@`T@([S@%]Z@aW@(dR@%cY@%f[@#WX@(pR@%l^@dW@(xQ@%r]@cS@",
  "-%TX@--JXQ@-<7lZ@2ohE@,4(yQ@:vX@:US@:uh@'EY|@:u&_T@:p^@)uT, @++Fd[If@#eTzero@-'B]R@&=UQynchr",
  "ono@1/(jZ@;z1XT@;u^@+-7gU@3zV@;t_@%CkQ@2i$]@A?^P@7L^V@'*gQ@bR@7>xe@)>]R's@AAyR@$-LtT@-0BYS@'",
  "bT@BLkS@8qR@-$[Qk@'-dQ@'7TRn@2&(cS@A3]_@(eR@Cja@'<jb@$(uQ@FDj#[@$*cR@)v[Q@jR@#-F`?[@/8l$f@#-",
  "F_._@#$sQ@3<Cq#<a@E7pv@#=kQ@#-2WDV@DbQ@3<?^#/f@#/qQ@3<?_#9m@H;b$g@#-:oKn@+5dT@)/kc@50SMs@NQ]",
  "@Nwe@50S,x@-Vc@.Ue@#-:i#5^@#5iW@#-:h>Tdepthfa@=AV$X@.+Eqw@;5EaR@8OV@&BcPa@+3dPwar@>-aQ@%(wU@",
  "/=GpUaves up@BMOSead@1<ByQ@-79hXn@+'iT@5GlQ@$!gZ@16GqS@=AqV@&dP@#.[X@#YO@+HYT@17MZS@;<1j[@KF",
  "RP@,?UZ@12HeXfadi@+#$yV is i@$0'TQ,@(7vQ@$2jQop@%&AnXin@(8`U@3FnT@L6VPully satu@+bP@)uQ@*#rP",
  "@)TU@*Yl@C!s]D@/_S@#-IX%c@.BCOn@&EU$g@#-Ll2x@$LnX@$Mck@GDv(HW@(Hi`@GEO#'V@)N^a@*!Zs@GE[;u@<b",
  "f@=de@3=$qBz@CXY@C|^@22<[W@Cyymi@158S%i@$:<rt@#$0dQ@/:mPiz@:<Fs]@#*M_U@4Ar[M@(PQ@14<o$^@,4cT",
  "h@1D<fUhow@7#cf@=dO@'OOf@*!VQ@32OS@2#xTre @#)-ZQ@?PO@DAyU@<$`T@'FxS@1I/|T@)RRs were@41nS@/#_",
  "Q@$:=rY@-5/wV@22LqU.@/eQ@#%DhR@&|S@,6uQ@$GG_Q@%.tQ;@<'xQ@<NxQ@'nP@=*jR@/(RS@%dO@>EVRfurther ",
  "down@-HrQ@2Kpa@(4|S@%uV@%iS@8,MWR@'RV@)wT@2;<vV@34ZP@%2KoT@#fV@+:!b[@14?p[@6|W@7o^@90dQ@74j#",
  "]@9<bQ@74i^@iP@<N*q)o@4<_&g@&mS@;BWT@3/BmUkernel@4N$`R estimat@0CBz]@#jU@&3l[Silverman's@'IZ",
  "P@C_Oumb@+LsX@)qS&@:>qQ@#2gf@4uP@90aR@-Fx$b@%7/x+e@(6e$W@(7.T0T@>yP@%6Mh'g@-<!lQ@3'kQ@%6MuUk",
  "d@/em@.yP@%6NRt@$cQ @;H'x_@L^f@61TR@&ZYthem@;H)Q#/v@-=4yS@+rU@;H)Q(y@#BhP@'D=d9P@1>,l$g@72tn",
  "@<nP@;GJ]$p@)Zl@->%VT@%l$g@73Fz3u@%Jg%u@5BH|-]@-H'eUI@'G|R@;FDn)z@-?/iV@;FDn#Y@#jS@;FDn#s@%0",
  "WRa@;FDpk@#N[_@;FDsV@$I+|f@-3n#z@;LJ])s@.YS@xS@B<ZR@-D6Xf@;LJ^#t@8NSV@(6_X@;LISb@1SO@1QO@;FF",
  "U6Vc@,!*]$i@=cR@%IVP@,!*Yh@,!.|Q@C4OQ@AlP@&UOmode`)@,!*n#|If a@%vQ's@/'<^Sis@.20rV@%VP@&DMkV",
  "@2FUS@69rU's@$<:WQ@-?BdX@'zR@#G'SS@$uO@H;`P@&%oR@#=hS@,GDdQ@(>QV@,TT@,cR@+HQ$]@(TO@#+IeSu@+7",
  "+QT@ASVric @:EETT@%'tVeach@-A7kR@'3]W.@$RU@,,XU@zQh@9B$XV(max)@#vQ@%OT@1GJjU@LaVca@79LgU@+J_",
  "T@N[X@AEnQup@$lV@#.MXY@*TR@$J:Ts@$6uP@$J:U8R@1I-a$_@BbR@10SR@#,9OS@.5KgX@)7_k@+JeT@38WPhe@'*",
  "tS@>'eS@?STone@-GvS@KuR @.2GUT@.82kX@4?CwQng two@-B-jS@5gP@4#gP@76,eZ@G;QT@7'zV`@*!mP@+DzS@'",
  "eU@,8SR@&)sQo@'tW@);]`@;IH|&Q@#/4[^p@#1PPdat@'%wR@$B2oY@,^Z@0;uS@#<jQ@'EIifspa@)(>vQ@+MgV@1%",
  "9SR@)tX@;IDkQ@#UR@E;W$Yo@+:dSh@,F.VT@1%AvX@#F[Z@#'VW@)Y^@A[T@)Un@$zS@#&iT@#vOgo@4B>UV@-BCqT@",
  "//(lW@1/sQwo@(;]T@$JjV@9C)jY@#UOpl@#T[.@'pT@%Oy@.;5vQ@$WW@./QP@))'aQ@#hO@2#:[R@%'hPmode@*PVa"]

def schemaBlock15 : List String := [
  "nd@7;5dS@HZPpa@))'|dS@.ZR@#/Bt&e@;G>eBd@$!]P@<2$_,q@&Me&W@%AiW@#2US@&(0bZ@;G*t#y@#DpX@$CeV@;",
  "G*w8i@#0,X2X@;F0|7w@$K;z2u@D>eS@,&jb@<%Fm#P@+4m$[@-N.PY@73&X#i@1?+p$g@,MR&Ran@<bOature@*|T@-",
  "F)c_@'EvS@$.y&T@(/|s@$.zW@1bX@-&9z]@(_Q@;7<tm@#lZ@M>RQ@1$8TV@'Mz_@#!$y]@8aT@9Qd@:ClMs@NP[@Nu",
  "d@:Cj,x@-Ub@.Sd@;F!h&+o@&+yW@&,md@$>4P&x@'UY@'xd@$>4R&z@'W[@(O_@JMhQ@24[#]@JNpR@24[]@iO@36&c",
  "/Q@1cP@36&_#!x@##UQ@?*R$s@#??T1q@36&ZB`@#(aP@36&V#:g@#:qP@-J#T#2r@#?B|##O@366wm@$4wP@366s%q@",
  "J<W$h@366s$I`@#'8OS@+:bb@366k-[@-fU@.We@G'Y(HV@(HbX@G'R#'V@)NOY@)Nrl@G&q;u@<Z_@=Ud@:,WMt@NPZ",
  "@Nud@:,W,y@-Ua@.Sd@365k-^@-hW@.[^@#17QT@5Nx#]@#1NdT@5N|^@lS@=F=T-^@>oS@?HYTb@=F<`v@G1xW@=F9m",
  "+R@8,:Wn@;kS@8,:Z4l@-E=Pq@5sS@-E=U$p@8,>W0Q@8'BlW@4+%UUfin@8,=i)P@:yS@#02bDW@LYQ`,@4+LRSand ",
  "`@LXO@8,=S:Q@#KRy@-FB^$p@#.3gT@':e$_@8,BP2R@7wS@4.$|8Xasur@25|&]@<%$e_typ@0LPP@#NKQ`@0<PW@/J",
  ">lVs '@+%dR'@5L<yS;@#;Mu^use 'total'@F6a[ums@,*&eQ'@0H)[R'@0I.iU@7KmTre@,9yR@2F%pU@20NqQ@)*0",
  "lUan@210pS@*1tP@/E|Q@5LAoQ@5!yW@,iP@=FGe#+l@)1'nAt@.0x&v@6;(f'O@8,GW)c@'&_#W@#0HZ#b@8,F^j@(:",
  "YSs,@8,FRHm@'&l[,@'&iR@#FhP@%$hP@#1$Xi@JZO@&%bqT@|P@&%W$e@8,IRCs@#A;r)Y@#!;sZ@8,Li%!v@-9bT@-",
  ":Rg@8,Lo#V@HE[q@<JU$g@L.d$]pann@/9:xT@#0wQ@(8w[@->#rS@8,HtT@1?Y]@&7!pR@HIi&R@&|Y@5(zV@#&Fgk@",
  "0r^@1lg@-J4l#W@C#nn@$[^@#!Ma$j@(g_@-J5Zi@&Ze@(ny@G5s$d @.J%Sy@<Oq@85W$p@*ze@+|g@/GlMs@NS_@N|",
  "g@-J9r#W@#2hw@$[T@#2h%Q@-J:ai@&Ze@#2h%n@.K*Wr@#2hq@+0=u$p@*ze@+|g@0+_,x@-Xe@.Yg@(4YQ@>o#y@$W",
  "P@>k%Q@'eQ@([m@>c%wt@.K%_#S@>tq@:L9s$p@+Za@,W^X@&!9Q(Plice@2B,gQ@$,&xf@wR @$,&y%z@*)#s&f@)Jx",
  "`(@#<bP@-$#uQ@&8KaS@%>sS@#)GnX@vQ@%<mS@3;=kS@+&VW@88RWx@7&|Rs@1N'VQd @*JnZ@*)#qW@#L0a&[slic@",
  ",G9bQ@$!*U#R@<mUX@#)0P`X@&!?b(Ocap@<Wn@uO@<U%|@3q%n@Fp#bx@Fr&O@7g]@#?,X`X@#I*w|@,3x&h@,K)UU@",
  "95b^@%L>[U@A$|%i@'ff@#LN`Y@%C:jV@5MyR@7LfS@86|V@(dT@%CIqf@#4)iV@9k%o@LZY@'[T@#%4yW@1$7`[@5ih",
  "@#HJ[`@6#%sQ@5my@#N#h%g@86Wye@**8sS@:(iR@1$<nQ@6&&`R@9&|Qbin@A<aSe@8D;PZ@$-GxR, we@3C2WT@%/d",
  "P@8D;gQ by@%D%yRfrom `@#N%uQuntil we r@76lPr exceed `end@*-rY@+D]Vda@1#MzTLike@#tR@*CxP@'4|P",
  "us@84`[a@'5pQ@82YS@#kO@$cO i@-GI^U@+9^P@sQ@1&IsX@:NPX@#$)XR@K#r%g@;Mty@,K8hV@-|T@/0*zT@3IYR:",
  "@0ERPbinsx@)[O0 @,5+|T, we@&&#rQ a nice@',rQ@6&2`b@%,fTbins i@#6SV@2;J_Vtyp@&cO@#$KcZs @&A%P",
  "R@6)NhR@%eV@#?DsT@%akgiving@3AA_X@%+QT@3|PF@'2fRdata@##EmQ@'(Qc@1&[Pnth@*APPin `@=[O@8JZRF@0",
  "wZ@6FkZ@,OR@%4MPQin@#%+pT(@//7hQ@4.oV1)@2N<cY@#MEp%p@<0Y|@;K3YW@=k`@:n[@CBuQ@:nT, shift@'H/^",
  "Sf@,ELyU@#F<yR@.eU@AKiV@.*6zR ambiguou@$mO@#/pR@/7>SZm@8?!QU@1BhPs@%?XTwe@<0NfQ@AZVs 0.5@%bO",
  ", so a@AhRof 5@B![V@G:hT@BPRof -0.5, so@%:[Qclear@2UP0-4@+<`Q@%=iUbin, 5-9@02dX@*8eQontin@'R",
  "O@&WO@79[Q@$$oP@.:F`S@7hO[0,5), [5,10)@<*^P@+9QP@'HFsQ@(,PQly@.)NgR@%|P@9)db@4R`@#VR@DQr@$`P",
  "@4VV-0.5@4XYtar@%!PX@#%TQ@#%oc@$!y|@#%o<xI@C*XUnon-@.B|Q@C-qP@#D!nQ@/;2eS@,;+_T@GcT@2!=`S@%E",
  "?YTus@,FQQ@%5LzSs discar@2%B[Rno@#QU@*`S@,VQ@#!:iS@3?HRY@H'lQbin@%E:jZ@:N6XR@4H6cVabo@#NNg&S",
  "@#*r/|@9[#k@%[S@9]O@#$aS@9eX@$1iP@0QU(@0RV) @#FNmS@2,sR@3E<YQby@'#]V@E|X@8oX@#/[a@$Gj`Y@%Ka4",
  "dy@%Ka'v@$$?ms@<^UY@#Jg`Y@%Ka2ay@%Ka&aY@#%ra@%Ka4U@*,X^@5i]@%Ka`@/DMPQ@5my@3IId&x@$&RR@.K!YU",
  "@DJQX@#LCkR@/;IX$b@/,PU@,LGYR| QKma@4BIiU@=/yi@/CIc_@EzP@.K'jV@/9)qSa@,E7rR@EqP@5$lS@8>iRwh@",
  "/?,qQ@*ErP/ou@:$OR@:5PVa@/4*|R@#HIQW@=-OS@&hO@+#_Q@/CJWT@rU@'RQ@>FOQ@#>6VQ@/;AZfy-@1*VP@%yU@",
  "3#$`S@#.<U^@/;IuU@4cV@3yP@4g_@&0y(V@1'<VQ@%-X-p@-|T@%-Xhy@%-X%`@7/JjX@&0y,t@=kW@&0y.s@#%TQ@#",
  "%oc@&0y(R@#%o7t@&0y,m@#*r.b@&0y'R@#.nQ@#/[^Z@&0y4dz@&0y'v@$';ps@<^UZ@#Jg`Z@&0y2az@&0y&aZ@#%r",
  "a@&0y4Uz@&0ynZ@&0y^&,@.1)j%q@)^S@2AYi@$$TR@*tm@9I_P@$%HpR@&/j#^@9BhU@$%K]R@71nQlu@17&jQ@#TS[",
  "]@-$0ef@4DJOQ@,OU@bQ@;N8z_ale@%52|Q@$Sa@#L#sgc@:>4wQ@M9uW@:>4QVemai@#K0`V@8G8_Wsla@#L#eW@&-F",
  "|U@#K1Q#Q@#aW@m[@$pU@m^@&TW@/!FTW@bO@)Q_@%>/kQ@)Re@%te@%>>x$i@,ART@&XQ@&s]m@/##UU@&r|@#M;Q#l",
  "@%yU@/!Nvb@<!#Od@A*ad@$%NhR@'zS@#cP@,q_b@,L)pQ@$Oqa@25]Q@)|T@#cO@$O]ch@%5GuR@$Op@4!;ST@9sR@#",
  "cP@$O]@9<?UT@$St@9<,vT@$WU@9<IgT@$[[@uU@$!-cQ@FT]"]

def schemaPacked : String :=
  String.join (schemaBlock01 ++
    schemaBlock02 ++
    schemaBlock03 ++
    schemaBlock04 ++
    schemaBlock05 ++
    schemaBlock06 ++
    schemaBlock07 ++
    schemaBlock08 ++
    schemaBlock09 ++
    schemaBlock10 ++
    schemaBlock11 ++
    schemaBlock12 ++
    schemaBlock13 ++
    schemaBlock14 ++
    schemaBlock15)

end Dashwright.Reference
